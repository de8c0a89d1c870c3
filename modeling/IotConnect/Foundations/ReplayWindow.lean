import Mathlib.Data.List.Nodup
import Mathlib.Data.Nat.Bitwise

/-! # Anti-replay windows

A receiver remembers the latest of the 32-bit sequence numbers it has received, `top`, and in the bits of a word
which of those shortly before it it has received as well: bit `k` is for `top - k`. `WindowOver` relates such a
window to the list of what has been received. It is kept by the two ways in which a number enters the window
(`WindowOver.ahead`, `WindowOver.late`), and as long as the numbers have not come round, a number is new exactly
when the window says so (`WindowOver.fresh_iff`). -/
namespace IotConnect.ReplayWindow
set_option autoImplicit false

/-! ## Numbers on the circle -/

/-- How far `n` is behind `m`. -/
def behind (n m : UInt32) : ℕ := (m - n).toNat

theorem behind_eq (n m : UInt32) : behind n m = (2 ^ 32 - n.toNat + m.toNat) % 2 ^ 32 := UInt32.toNat_sub m n

theorem behind_lt (n m : UInt32) : behind n m < 2 ^ 32 := (m - n).toNat_lt

variable {n m : UInt32}

theorem behind_eq_zero : behind n m = 0 ↔ n = m := by
  rw [behind_eq, ← UInt32.toNat_inj]
  have hn := n.toNat_lt
  have hm := m.toNat_lt
  omega

theorem behind_add_behind (h : n ≠ m) : behind n m + behind m n = 2 ^ 32 := by
  have hne := mt UInt32.toNat_inj.mp h
  have hn := n.toNat_lt
  have hm := m.toNat_lt
  rw [behind_eq, behind_eq]
  omega

theorem behind_self (n : UInt32) : behind n n = 0 := behind_eq_zero.mpr rfl

variable {k : ℕ}

theorem behind_sub_ofNat (m : UInt32) (hk : k < 2 ^ 32) : behind (m - UInt32.ofNat k) m = k := by
  have hm := m.toNat_lt
  rw [behind_eq, UInt32.toNat_sub, UInt32.toNat_ofNat', Nat.mod_eq_of_lt hk]
  omega

theorem sub_behind (n m : UInt32) : m - UInt32.ofNat (behind n m) = n := by
  have hn := n.toNat_lt
  have hm := m.toNat_lt
  rw [← UInt32.toNat_inj, UInt32.toNat_sub, UInt32.toNat_ofNat', behind_eq]
  omega

theorem behind_trans {r : UInt32} {a : ℕ} (hr : behind r m ≤ a) (h : a + behind m n < 2 ^ 32) :
    behind r n = behind r m + behind m n := by
  rw [behind_eq] at hr h
  rw [behind_eq, behind_eq, behind_eq]
  have hn := n.toNat_lt
  have hm := m.toNat_lt
  have hr' := r.toNat_lt
  omega

theorem sub_ofNat_ne (hk : 1 ≤ k) (hk' : k < 2 ^ 32) : m - UInt32.ofNat k ≠ m := by
  intro h
  have hbehind := behind_sub_ofNat m hk'
  rw [h, behind_self] at hbehind
  omega

theorem behind_sub_of_le (hk : k ≤ behind m n) : behind m (n - UInt32.ofNat k) = behind m n - k := by
  have hn := n.toNat_lt
  have hm := m.toNat_lt
  have hk' : k < 2 ^ 32 := Nat.lt_of_le_of_lt hk (behind_lt m n)
  rw [behind_eq] at hk
  rw [behind_eq, behind_eq, UInt32.toNat_sub, UInt32.toNat_ofNat', Nat.mod_eq_of_lt hk']
  omega

theorem sub_ofNat_of_le (hk : behind m n ≤ k) (hk' : k < 2 ^ 32) :
    n - UInt32.ofNat k = m - UInt32.ofNat (k - behind m n) := by
  have hn := n.toNat_lt
  have hm := m.toNat_lt
  have hsub : k - behind m n < 2 ^ 32 := by omega
  rw [← UInt32.toNat_inj, UInt32.toNat_sub, UInt32.toNat_sub, UInt32.toNat_ofNat', UInt32.toNat_ofNat',
    Nat.mod_eq_of_lt hk', Nat.mod_eq_of_lt hsub]
  rw [behind_eq] at hk ⊢
  omega

theorem wrap_eq_sub (a b : UInt32) : 0xFFFFFFFF - a + b + 1 = b - a := by
  rw [← UInt32.toNat_inj]
  have ha := a.toNat_lt
  have hb := b.toNat_lt
  rw [UInt32.toNat_add, UInt32.toNat_add, UInt32.toNat_sub, UInt32.toNat_sub]
  simp
  omega

theorem sub_eq_ofNat (n m : UInt32) : m - n = UInt32.ofNat (behind n m) := by
  rw [behind, UInt32.ofNat_toNat]

/-- At most `w` before or after. -/
def Near (w : ℕ) (n m : UInt32) : Prop := behind n m ≤ w ∨ behind m n ≤ w

/-- The modular maximum of `start` and of numbers that came in one after another, the last one first, and how far
it has moved on. -/
def progress (start : UInt32) (l : List UInt32) : UInt32 × ℕ :=
  l.foldr (fun n p => if behind p.1 n < 2 ^ 31 then (n, p.2 + behind p.1 n) else p) (start, 0)

theorem progress_cons (start n : UInt32) (l : List UInt32) :
    progress start (n :: l) =
      if behind (progress start l).1 n < 2 ^ 31 then (n, (progress start l).2 + behind (progress start l).1 n)
      else progress start l := rfl

theorem progress_le (start n : UInt32) (l : List UInt32) : (progress start l).2 ≤ (progress start (n :: l)).2 := by
  rw [progress_cons]
  split_ifs
  · exact Nat.le_add_right _ _
  · exact Nat.le_refl _

/-! ## Bits -/

def bit (map : UInt32) (k : ℕ) : Bool := map.toNat.testBit k

theorem bit_or (a b : UInt32) (k : ℕ) : bit (a ||| b) k = (bit a k || bit b k) := by
  rw [bit, UInt32.toNat_or, Nat.testBit_or]
  rfl

variable {d : ℕ}

theorem bit_shiftLeft (a : UInt32) (hd : d < 32) (hk : k < 32) :
    bit (a <<< UInt32.ofNat d) k = (decide (d ≤ k) && bit a (k - d)) := by
  have hd32 : d < 2 ^ 32 := by omega
  rw [bit, UInt32.toNat_shiftLeft, UInt32.toNat_ofNat', Nat.mod_eq_of_lt hd32, Nat.mod_eq_of_lt hd,
    Nat.testBit_mod_two_pow, Nat.testBit_shiftLeft, decide_eq_true hk, Bool.true_and]
  rfl

theorem bit_one (k : ℕ) : bit 1 k = decide (k = 0) := by
  cases k with
  | zero => rfl
  | succ k => simp [bit, Nat.testBit_add_one]

theorem bit_shift_one (hd : d < 32) (hk : k < 32) : bit (1 <<< UInt32.ofNat d) k = decide (k = d) := by
  rw [bit_shiftLeft 1 hd hk, bit_one]
  by_cases h : d ≤ k
  · have : k - d = 0 ↔ k = d := by omega
    simp [h, this]
  · have : k ≠ d := by omega
    simp [h, this]

theorem bit_and (a b : UInt32) (k : ℕ) : bit (a &&& b) k = (bit a k && bit b k) := by
  rw [bit, UInt32.toNat_and, Nat.testBit_and]
  rfl

theorem eq_zero_iff_bit (a : UInt32) : a = 0 ↔ ∀ k < 32, bit a k = false := by
  constructor
  · rintro rfl k -
    exact Nat.zero_testBit k
  · intro h
    apply UInt32.toNat_inj.mp
    apply Nat.eq_of_testBit_eq
    intro k
    rw [UInt32.toNat_zero, Nat.zero_testBit]
    by_cases hk : k < 32
    · exact h k hk
    · have hlt : a.toNat < 2 ^ k := a.toNat_lt.trans_le (Nat.pow_le_pow_right (by decide) (Nat.not_lt.mp hk))
      exact Nat.testBit_lt_two_pow hlt

theorem and_shift_one_eq_zero (map : UInt32) (hd : d < 32) :
    map &&& 1 <<< UInt32.ofNat d = 0 ↔ bit map d = false := by
  rw [eq_zero_iff_bit]
  constructor
  · intro h
    have hbit := h d hd
    rwa [bit_and, bit_shift_one hd hd, decide_eq_true rfl, Bool.and_true] at hbit
  · intro h k hk
    rw [bit_and, bit_shift_one hd hk]
    by_cases hkd : k = d
    · rw [hkd, h, Bool.false_and]
    · rw [decide_eq_false hkd, Bool.and_false]

/-! ## The window -/

/-- A window of width `w` that has moved on by `advance` since the first number. -/
structure Tracks (w : ℕ) (top map : UInt32) (received : List UInt32) (advance : ℕ) : Prop where
  top_mem : top ∈ received
  reach : ∀ r ∈ received, behind r top ≤ advance + w
  bits : ∀ k, 1 ≤ k → k ≤ w → (bit map k = true ↔ top - UInt32.ofNat k ∈ received)

def Fresh (w : ℕ) (top map n : UInt32) : Prop :=
  n ≠ top ∧ (behind top n ≤ w ∨ behind n top ≤ w ∧ bit map (behind n top) = false)

section
variable {w : ℕ} {top map map' n : UInt32} {received : List UInt32} {advance : ℕ}

theorem tracks_start (w : ℕ) (hw : w < 2 ^ 32) (top : UInt32) (hmap : ∀ k, 1 ≤ k → k ≤ w → bit map k = false) :
    Tracks w top map [top] 0 where
  top_mem := List.mem_singleton_self top
  reach := by
    intro r hr
    rw [List.mem_singleton.mp hr, behind_self]
    exact Nat.zero_le _
  bits := by
    intro k hk hkw
    refine iff_of_false (by rw [hmap k hk hkw]; exact Bool.false_ne_true) ?_
    intro hmem
    have hzero := behind_sub_ofNat top (Nat.lt_of_le_of_lt hkw hw)
    rw [List.mem_singleton.mp hmem, behind_self] at hzero
    omega

theorem Tracks.ahead_new (h : Tracks w top map received advance) (hfar : advance + 2 * w < 2 ^ 32) (hne : n ≠ top)
    (hn : behind top n ≤ w) : n ∉ received := by
  intro hmem
  have hreach := h.reach n hmem
  have hround := behind_add_behind hne
  omega

theorem Tracks.fresh_iff (h : Tracks w top map received advance) (hfar : advance + 2 * w < 2 ^ 32) (n : UInt32) :
    Fresh w top map n ↔ Near w n top ∧ n ∉ received := by
  by_cases hne : n = top
  · refine iff_of_false (fun hfresh => hfresh.1 hne) ?_
    rintro ⟨-, hnot⟩
    exact hnot (hne ▸ h.top_mem)
  have hpos : 1 ≤ behind n top := Nat.one_le_iff_ne_zero.mpr (mt behind_eq_zero.mp hne)
  have hbit : behind n top ≤ w → (bit map (behind n top) = true ↔ n ∈ received) := by
    intro hle
    have := h.bits (behind n top) hpos hle
    rwa [sub_behind] at this
  constructor
  · rintro ⟨-, hahead | ⟨hlate, hclear⟩⟩
    · exact ⟨.inr hahead, h.ahead_new hfar hne hahead⟩
    · refine ⟨.inl hlate, ?_⟩
      rw [← hbit hlate, hclear]
      exact Bool.false_ne_true
  · rintro ⟨hlate | hahead, hnot⟩
    · refine ⟨hne, .inr ⟨hlate, ?_⟩⟩
      rwa [← hbit hlate, Bool.not_eq_true] at hnot
    · exact ⟨hne, .inl hahead⟩

theorem Tracks.ahead (h : Tracks w top map received advance) (hfar : advance + 2 * w < 2 ^ 32) (hne : n ≠ top)
    (hn : behind top n ≤ w)
    (hmap : ∀ k, 1 ≤ k → k ≤ w → bit map' k =
      (decide (k = behind top n) || (decide (behind top n < k) && bit map (k - behind top n)))) :
    Tracks w n map' (n :: received) (advance + behind top n) where
  top_mem := List.mem_cons_self
  reach := by
    intro r hr
    rcases List.mem_cons.mp hr with rfl | hr
    · rw [behind_self]
      exact Nat.zero_le _
    · have hreach := h.reach r hr
      rw [behind_trans hreach (by omega)]
      omega
  bits := by
    intro k hk hkw
    have hk' : k < 2 ^ 32 := by omega
    have hself : n - UInt32.ofNat k ≠ n := sub_ofNat_ne hk hk'
    rw [hmap k hk hkw, List.mem_cons, or_iff_right hself]
    rcases Nat.lt_trichotomy k (behind top n) with hlt | heq | hgt
    -- numbers the window has skipped
    · have hback := behind_sub_of_le (Nat.le_of_lt hlt)
      have hne' : n - UInt32.ofNat k ≠ top := by
        intro htop
        rw [htop, behind_self] at hback
        omega
      have hnew := h.ahead_new hfar hne' (by omega)
      simp [hnew, Nat.ne_of_lt hlt, Nat.not_lt.mpr (Nat.le_of_lt hlt)]
    -- the number that was the latest before
    · rw [heq, sub_behind]
      simp [h.top_mem]
    · have hold := h.bits (k - behind top n) (by omega) (by omega)
      rw [sub_ofNat_of_le (Nat.le_of_lt hgt) hk', ← hold]
      simp [Nat.ne_of_gt hgt, hgt]

theorem Tracks.late (h : Tracks w top map received advance) (hw : w < 2 ^ 32) (hn : behind n top ≤ w)
    (hmap : ∀ k, 1 ≤ k → k ≤ w → bit map' k = (bit map k || decide (k = behind n top))) :
    Tracks w top map' (n :: received) advance where
  top_mem := List.mem_cons_of_mem n h.top_mem
  reach := by
    intro r hr
    rcases List.mem_cons.mp hr with rfl | hr
    · omega
    · exact h.reach r hr
  bits := by
    intro k hk hkw
    rw [hmap k hk hkw, Bool.or_eq_true, h.bits k hk hkw, decide_eq_true_iff, List.mem_cons, or_comm]
    have hself : k = behind n top ↔ top - UInt32.ofNat k = n := by
      constructor
      · rintro rfl
        exact sub_behind n top
      · rintro rfl
        exact (behind_sub_ofNat top (by omega)).symm
    rw [hself]

/-- A window that began with `start` and has taken the numbers `accepted` since, the last one first. -/
structure WindowOver (w : ℕ) (start top map : UInt32) (accepted : List UInt32) : Prop where
  tracks : Tracks w top map (accepted ++ [start]) (progress start accepted).2
  top_eq : top = (progress start accepted).1
  nodup : (accepted ++ [start]).Nodup

variable {start : UInt32} {accepted : List UInt32}

theorem windowOver_start (w : ℕ) (hw : w < 2 ^ 32) (start : UInt32) (hmap : ∀ k, 1 ≤ k → k ≤ w → bit map k = false) :
    WindowOver w start start map [] :=
  ⟨tracks_start w hw start hmap, rfl, List.nodup_singleton start⟩

theorem WindowOver.fresh_iff (h : WindowOver w start top map accepted)
    (hfar : (progress start accepted).2 + 2 * w < 2 ^ 32) (n : UInt32) :
    Fresh w top map n ↔ Near w n (progress start accepted).1 ∧ n ∉ accepted ++ [start] := by
  rw [h.tracks.fresh_iff hfar n, h.top_eq]

theorem WindowOver.ahead (h : WindowOver w start top map accepted)
    (hfar : (progress start accepted).2 + 2 * w < 2 ^ 32) (hw : w < 2 ^ 31) (hfresh : Fresh w top map n)
    (hn : behind top n ≤ w)
    (hmap : ∀ k, 1 ≤ k → k ≤ w → bit map' k =
      (decide (k = behind top n) || (decide (behind top n < k) && bit map (k - behind top n)))) :
    WindowOver w start n map' (n :: accepted) := by
  have hprogress : progress start (n :: accepted) = (n, (progress start accepted).2 + behind top n) := by
    rw [progress_cons, ← h.top_eq, if_pos (by omega)]
  refine ⟨?_, ?_, List.nodup_cons.mpr ⟨((h.fresh_iff hfar n).mp hfresh).2, h.nodup⟩⟩
  · rw [hprogress]
    exact h.tracks.ahead hfar hfresh.1 hn hmap
  · rw [hprogress]

theorem WindowOver.late (h : WindowOver w start top map accepted)
    (hfar : (progress start accepted).2 + 2 * w < 2 ^ 32) (hw : w < 2 ^ 31) (hfresh : Fresh w top map n)
    (hn : ¬ behind top n ≤ w)
    (hmap : ∀ k, 1 ≤ k → k ≤ w → bit map' k = (bit map k || decide (k = behind n top))) :
    WindowOver w start top map' (n :: accepted) := by
  have hlate : behind n top ≤ w := (hfresh.2.resolve_left hn).1
  have hround := behind_add_behind hfresh.1
  have hprogress : progress start (n :: accepted) = progress start accepted := by
    rw [progress_cons, ← h.top_eq, if_neg (by omega)]
  refine ⟨?_, ?_, List.nodup_cons.mpr ⟨((h.fresh_iff hfar n).mp hfresh).2, h.nodup⟩⟩
  · rw [hprogress]
    exact h.tracks.late (by omega) hlate hmap
  · rw [hprogress]
    exact h.top_eq

end

end IotConnect.ReplayWindow
