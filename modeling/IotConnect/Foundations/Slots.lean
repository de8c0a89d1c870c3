import IotConnect.Foundations.Memory
import Mathlib.Algebra.GroupWithZero.Nat

/-! # Numbered pieces of a message

A message arrives in pieces numbered `0 .. n-1`, each at most once. `Pieces` records the pieces that
are there; `count` and `total` are the number of pieces and of their cells, `concat` the message in
index order. A block of memory in which piece `i` sits at cell `i * w` reads `concat` from cell `0`
on exactly as far as the pieces before the last one fill their slot of `w` cells
(`load_concat`). -/
namespace IotConnect.Slots
open Memory
set_option autoImplicit false

variable {α : Type}

abbrev Pieces (α : Type) := ℕ → Option (List α)

def empty : Pieces α := fun _ => none

/-- Record piece `i`. -/
def put (f : Pieces α) (i : ℕ) (l : List α) : Pieces α :=
  fun j => if j = i then some l else f j

def piece (f : Pieces α) (i : ℕ) : List α := (f i).getD []

def count (f : Pieces α) (n : ℕ) : ℕ := (List.range n).countP fun i => (f i).isSome

def total (f : Pieces α) (n : ℕ) : ℕ := ((List.range n).map fun i => (piece f i).length).sum

def concat (f : Pieces α) (n : ℕ) : List α := (List.range n).flatMap (piece f)

def Full (f : Pieces α) (n : ℕ) : Prop := ∀ i < n, (f i).isSome = true

/-! ## Reading the record -/

@[simp] theorem put_self (f : Pieces α) (i : ℕ) (l : List α) : put f i l i = some l := by
  simp [put]

theorem put_ne (f : Pieces α) (i j : ℕ) (l : List α) (h : j ≠ i) : put f i l j = f j := by
  simp [put, h]

@[simp] theorem piece_put_self (f : Pieces α) (i : ℕ) (l : List α) : piece (put f i l) i = l := by
  simp [piece]

theorem piece_put_ne (f : Pieces α) (i j : ℕ) (l : List α) (h : j ≠ i) : piece (put f i l) j = piece f j := by
  simp [piece, put_ne f i j l h]

theorem piece_none (f : Pieces α) (i : ℕ) (h : f i = none) : piece f i = [] := by
  simp [piece, h]

theorem count_succ (f : Pieces α) (n : ℕ) :
    count f (n + 1) = count f n + if (f n).isSome then 1 else 0 := by
  simp [count, List.range_succ, List.countP_append, List.countP_cons]

theorem total_succ (f : Pieces α) (n : ℕ) : total f (n + 1) = total f n + (piece f n).length := by
  simp [total, List.range_succ]

theorem concat_succ (f : Pieces α) (n : ℕ) : concat f (n + 1) = concat f n ++ piece f n := by
  simp [concat, List.range_succ, List.flatMap_append]

theorem concat_congr (f g : Pieces α) (n : ℕ) (h : ∀ i < n, piece f i = piece g i) :
    concat f n = concat g n := by
  induction n with
  | zero => rfl
  | succ n ih =>
    rw [concat_succ, concat_succ, ih fun i hi => h i (by omega), h n (by omega)]

@[simp] theorem count_empty (n : ℕ) : count (empty : Pieces α) n = 0 := by
  simp [count, empty]

@[simp] theorem total_empty (n : ℕ) : total (empty : Pieces α) n = 0 := by
  induction n with
  | zero => rfl
  | succ n ih => rw [total_succ, ih]; rfl

/-! ## Recording a new piece -/

theorem count_put_ge (f : Pieces α) (i n : ℕ) (l : List α) (hi : n ≤ i) : count (put f i l) n = count f n := by
  induction n with
  | zero => rfl
  | succ n ih => rw [count_succ, count_succ, ih (by omega), put_ne f i n l (by omega)]

theorem count_put (f : Pieces α) (i n : ℕ) (l : List α) (hi : i < n) (hf : f i = none) :
    count (put f i l) n = count f n + 1 := by
  induction n with
  | zero => omega
  | succ n ih =>
    rw [count_succ, count_succ]
    by_cases h : i = n
    · subst h
      rw [count_put_ge f i i l (Nat.le_refl i), put_self, hf]
      simp
    · rw [ih (by omega), put_ne f i n l (by omega)]
      omega

theorem total_put_ge (f : Pieces α) (i n : ℕ) (l : List α) (hi : n ≤ i) : total (put f i l) n = total f n := by
  induction n with
  | zero => rfl
  | succ n ih => rw [total_succ, total_succ, ih (by omega), piece_put_ne f i n l (by omega)]

theorem total_put (f : Pieces α) (i n : ℕ) (l : List α) (hi : i < n) (hf : f i = none) :
    total (put f i l) n = total f n + l.length := by
  induction n with
  | zero => omega
  | succ n ih =>
    rw [total_succ, total_succ]
    by_cases h : i = n
    · subst h
      rw [total_put_ge f i i l (Nat.le_refl i), piece_put_self, piece_none f i hf, List.length_nil]
      omega
    · rw [ih (by omega), piece_put_ne f i n l (by omega)]
      omega

/-! ## Completeness -/

theorem count_le (f : Pieces α) (n : ℕ) : count f n ≤ n := by
  have h := List.countP_le_length (p := fun i => (f i).isSome) (l := List.range n)
  rwa [List.length_range] at h

theorem count_eq_iff (f : Pieces α) (n : ℕ) : count f n = n ↔ Full f n := by
  have h := List.countP_eq_length (p := fun i => (f i).isSome) (l := List.range n)
  rw [List.length_range] at h
  rw [count, h]
  exact ⟨fun hf i hi => hf i (List.mem_range.mpr hi), fun hf i hi => hf i (List.mem_range.mp hi)⟩

theorem total_pos (f : Pieces α) (n i : ℕ) (hi : i < n) (hp : 0 < (piece f i).length) : 0 < total f n := by
  induction n with
  | zero => omega
  | succ n ih =>
    rw [total_succ]
    by_cases h : i = n
    · subst h; omega
    · have := ih (by omega)
      omega

/-! ## The pieces in memory -/

theorem total_full (f : Pieces α) (w n : ℕ) (h : ∀ i < n, (piece f i).length = w) : total f n = n * w := by
  induction n with
  | zero => simp [total]
  | succ n ih =>
    rw [total_succ, ih fun i hi => h i (by omega), h n (by omega), Nat.succ_mul]

theorem load_concat (m : ℕ → α) (f : Pieces α) (w n : ℕ)
    (hfull : ∀ i, i + 1 < n → (piece f i).length = w)
    (hmem : ∀ i < n, Holds m (i * w) (piece f i)) : load m 0 (total f n) = concat f n := by
  induction n with
  | zero => simp [total, concat]
  | succ n ih =>
    have hw : ∀ i < n, (piece f i).length = w := fun i hi => hfull i (by omega)
    rw [total_succ, concat_succ, load_add, ih (fun i hi => hw i (by omega)) fun i hi => hmem i (by omega),
      Nat.zero_add, total_full f w n hw]
    rw [hmem n (by omega)]

/-! ## Cutting a message into pieces -/

/-- Piece `i` of `l`, cut every `w` cells. -/
def chunk (w : ℕ) (l : List α) (i : ℕ) : List α := (l.drop (i * w)).take w

theorem chunk_length (w : ℕ) (l : List α) (i : ℕ) : (chunk w l i).length = min w (l.length - i * w) := by
  simp [chunk]

theorem flatMap_chunk (w : ℕ) (l : List α) (n : ℕ) :
    (List.range n).flatMap (chunk w l) = l.take (n * w) := by
  induction n with
  | zero => simp
  | succ n ih =>
    rw [List.range_succ, List.flatMap_append, ih, Nat.succ_mul, List.take_add]
    simp [chunk]

theorem flatMap_chunk_all (w : ℕ) (l : List α) (n : ℕ) (h : l.length ≤ n * w) :
    (List.range n).flatMap (chunk w l) = l := by
  rw [flatMap_chunk, List.take_of_length_le h]

end IotConnect.Slots
