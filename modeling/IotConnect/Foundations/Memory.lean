import Mathlib.Data.List.GetD
import Mathlib.Tactic.Common

/-! # Blocks of memory

A block of memory is a total function from cell numbers to cells. Cells past the end of the
object a program owns are still cells: what they hold is unknown, not undefined. `store` copies a
list into a block, `load` reads a list back, and `Holds m off l` says that the block reads `l` from
cell `off` on. -/
namespace IotConnect.Memory
set_option autoImplicit false

variable {α : Type}

/-- The block after copying `l` to the cells from `off` on. -/
def store (m : ℕ → α) (off : ℕ) (l : List α) : ℕ → α :=
  fun i => if off ≤ i then l.getD (i - off) (m i) else m i

/-- The `n` cells from `off` on. -/
def load (m : ℕ → α) (off n : ℕ) : List α :=
  (List.range n).map fun k => m (off + k)

/-- The block of a list, filled up with `x`. -/
def ofList (l : List α) (x : α) : ℕ → α :=
  fun i => l.getD i x

/-- The block reads `l` from cell `off` on. -/
def Holds (m : ℕ → α) (off : ℕ) (l : List α) : Prop :=
  load m off l.length = l

/-! ## Reading -/

@[simp] theorem load_length (m : ℕ → α) (off n : ℕ) : (load m off n).length = n := by
  simp [load]

@[simp] theorem load_zero (m : ℕ → α) (off : ℕ) : load m off 0 = [] := rfl

theorem load_getElem (m : ℕ → α) (off n k : ℕ) (hk : k < (load m off n).length) :
    (load m off n)[k] = m (off + k) := by
  simp [load]

theorem load_add (m : ℕ → α) (off a b : ℕ) :
    load m off (a + b) = load m off a ++ load m (off + a) b := by
  unfold load
  rw [List.range_add, List.map_append, List.map_map]
  congr 1
  apply List.map_congr_left
  intro k _
  simp only [Function.comp_apply, Nat.add_assoc]

theorem load_one (m : ℕ → α) (off : ℕ) : load m off 1 = [m off] := rfl

theorem load_succ (m : ℕ → α) (off n : ℕ) : load m off (n + 1) = m off :: load m (off + 1) n := by
  rw [Nat.add_comm n 1, load_add, load_one, List.singleton_append]

theorem load_congr (m m' : ℕ → α) (off n : ℕ) (h : ∀ k < n, m (off + k) = m' (off + k)) :
    load m off n = load m' off n := by
  unfold load
  apply List.map_congr_left
  intro k hk
  exact h k (List.mem_range.mp hk)

theorem load_shift (m : ℕ → α) (base off n : ℕ) :
    load (fun i => m (base + i)) off n = load m (base + off) n := by
  unfold load
  apply List.map_congr_left
  intro k _
  simp only [Nat.add_assoc]

/-! ## Reading after writing -/

theorem store_apply_lt (m : ℕ → α) (off i : ℕ) (l : List α) (hi : i < off) : store m off l i = m i := by
  simp [store, Nat.not_le.mpr hi]

theorem store_apply_ge (m : ℕ → α) (off i : ℕ) (l : List α) (hi : off + l.length ≤ i) :
    store m off l i = m i := by
  have hle : off ≤ i := by omega
  simp only [store, hle, if_true]
  exact List.getD_eq_default _ _ (by omega)

theorem store_apply_mid (m : ℕ → α) (off k : ℕ) (l : List α) (hk : k < l.length) :
    store m off l (off + k) = l[k] := by
  simp only [store, Nat.le_add_right, if_true, Nat.add_sub_cancel_left]
  exact List.getD_eq_getElem _ _ hk

theorem load_store_self (m : ℕ → α) (off : ℕ) (l : List α) : load (store m off l) off l.length = l := by
  apply List.ext_getElem (by simp)
  intro k h1 h2
  rw [load_getElem, store_apply_mid m off k l h2]

theorem load_store_before (m : ℕ → α) (off o n : ℕ) (l : List α) (h : o + n ≤ off) :
    load (store m off l) o n = load m o n :=
  load_congr _ _ _ _ fun k hk => store_apply_lt m off (o + k) l (by omega)

theorem load_store_after (m : ℕ → α) (off o n : ℕ) (l : List α) (h : off + l.length ≤ o) :
    load (store m off l) o n = load m o n :=
  load_congr _ _ _ _ fun k _ => store_apply_ge m off (o + k) l (by omega)

@[simp] theorem store_nil (m : ℕ → α) (off : ℕ) : store m off [] = m := by
  funext i
  simp [store]

theorem store_append (m : ℕ → α) (off : ℕ) (a b : List α) :
    store m off (a ++ b) = store (store m off a) (off + a.length) b := by
  funext i
  by_cases h1 : i < off + a.length
  · rw [store_apply_lt _ _ _ _ h1]
    by_cases h0 : off ≤ i
    · obtain ⟨k, rfl⟩ : ∃ k, i = off + k := ⟨i - off, by omega⟩
      rw [store_apply_mid _ _ _ _ (by simp; omega), store_apply_mid _ _ _ _ (by omega),
        List.getElem_append_left (by omega)]
    · rw [store_apply_lt _ _ _ _ (by omega), store_apply_lt _ _ _ _ (by omega)]
  · by_cases h2 : i < off + a.length + b.length
    · obtain ⟨k, rfl⟩ : ∃ k, i = off + a.length + k := ⟨i - (off + a.length), by omega⟩
      rw [store_apply_mid _ _ _ _ (by omega), Nat.add_assoc,
        store_apply_mid _ _ _ _ (by simp; omega), List.getElem_append_right (by omega)]
      simp
    · rw [store_apply_ge _ _ _ _ (by simp; omega), store_apply_ge _ _ _ _ (by omega),
        store_apply_ge _ _ _ _ (by omega)]

theorem store_comm (m : ℕ → α) (off off' : ℕ) (l l' : List α) (h : off + l.length ≤ off') :
    store (store m off' l') off l = store (store m off l) off' l' := by
  funext i
  by_cases hi : i < off'
  · by_cases hlt : i < off
    · rw [store_apply_lt _ _ _ _ hlt, store_apply_lt _ _ _ _ hi, store_apply_lt _ _ _ _ hi, store_apply_lt _ _ _ _ hlt]
    · rw [store_apply_lt _ off' _ _ hi]
      simp only [store, if_pos (Nat.le_of_not_lt hlt), if_neg (Nat.not_le_of_lt hi)]
  · rw [store_apply_ge _ _ _ _ (by omega)]
    simp only [store, if_pos (Nat.le_of_not_lt hi)]
    rw [if_pos (by omega), List.getD_eq_default l _ (by omega)]

/-! ## Holding a list -/

theorem holds_store (m : ℕ → α) (off : ℕ) (l : List α) : Holds (store m off l) off l :=
  load_store_self m off l

theorem holds_append (m : ℕ → α) (off : ℕ) (a b : List α) :
    Holds m off (a ++ b) ↔ Holds m off a ∧ Holds m (off + a.length) b := by
  unfold Holds
  rw [List.length_append, load_add]
  constructor
  · intro h
    exact List.append_inj h (by simp)
  · rintro ⟨ha, hb⟩
    rw [ha, hb]

theorem Holds.store_append {m : ℕ → α} {off : ℕ} {a : List α} (h : Holds m off a) (b : List α) :
    Holds (store m (off + a.length) b) off (a ++ b) := by
  refine (holds_append _ _ _ _).mpr ⟨?_, holds_store _ _ _⟩
  rw [Holds, load_store_before _ _ _ _ _ (Nat.le_refl _)]
  exact h

theorem Holds.store_before {m : ℕ → α} {off : ℕ} {a b : List α} (h : Holds m (off + a.length) b) :
    Holds (store m off a) off (a ++ b) := by
  refine (holds_append _ _ _ _).mpr ⟨holds_store _ _ _, ?_⟩
  rw [Holds, load_store_after _ _ _ _ _ (Nat.le_refl _)]
  exact h

theorem Holds.getElem {m : ℕ → α} {off : ℕ} {l : List α} (h : Holds m off l) (k : ℕ) (hk : k < l.length) :
    m (off + k) = l[k] := by
  have e := load_getElem m off l.length k (by simpa using hk)
  rw [← e]
  exact List.getElem_of_eq h _

end IotConnect.Memory
