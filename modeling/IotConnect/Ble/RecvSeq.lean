import IotConnect.Foundations.ReplayWindow
import IotConnect.Foundations.Trace

/-! # Received sequence numbers of a BLE session (`ble_session_mngr.c`)

The window of 30 numbers around the largest one received. Checking and updating find out separately on which side
of the largest number another one lies, across the wrap of the numbers too. -/
namespace IotConnect.Ble
open ReplayWindow Trace
set_option autoImplicit false

def seqMaxInterval : UInt32 := 30

/-- The members of `BleSessKeyInfo` for what is received. -/
structure BleSessKeyInfo where
  maxRecvSeq : UInt32
  recvBitMap : UInt32
deriving DecidableEq

def bleSessRecvSeqInit (recvSeq : UInt32) : BleSessKeyInfo := ⟨recvSeq, 0 ||| 1⟩

def bleSessRecvSeqCheck (s : BleSessKeyInfo) (recvSeq : UInt32) : Bool :=
  if s.recvBitMap = 0 then true
  else if recvSeq = s.maxRecvSeq then false
  else if s.maxRecvSeq < recvSeq then
    if recvSeq - s.maxRecvSeq ≤ seqMaxInterval then true
    else if 0xFFFFFFFF - recvSeq + s.maxRecvSeq + 1 > seqMaxInterval then false
    else s.recvBitMap &&& 1 <<< (0xFFFFFFFF - recvSeq + s.maxRecvSeq + 1) = 0
  else
    if 0xFFFFFFFF - s.maxRecvSeq + recvSeq + 1 ≤ seqMaxInterval then true
    else if s.maxRecvSeq - recvSeq > seqMaxInterval then false
    else s.recvBitMap &&& 1 <<< (s.maxRecvSeq - recvSeq) = 0

/-- The end of `BleSessRecvSeqUpdate`. -/
def recvLarger (s : BleSessKeyInfo) (recvSeq minusAbs : UInt32) : BleSessKeyInfo :=
  ⟨recvSeq, s.recvBitMap <<< minusAbs ||| 1⟩

def recvSmaller (s : BleSessKeyInfo) (minusAbs : UInt32) : BleSessKeyInfo :=
  { s with recvBitMap := s.recvBitMap ||| 1 <<< minusAbs }

def bleSessRecvSeqUpdate (s : BleSessKeyInfo) (recvSeq : UInt32) : BleSessKeyInfo :=
  if s.recvBitMap = 0 then bleSessRecvSeqInit recvSeq
  else if recvSeq = s.maxRecvSeq then s
  else if s.maxRecvSeq < recvSeq then
    if recvSeq - s.maxRecvSeq ≤ seqMaxInterval then recvLarger s recvSeq (recvSeq - s.maxRecvSeq)
    else recvSmaller s (0xFFFFFFFF - recvSeq + s.maxRecvSeq + 1)
  else
    if 0xFFFFFFFF - s.maxRecvSeq + recvSeq + 1 ≤ seqMaxInterval then
      recvLarger s recvSeq (0xFFFFFFFF - s.maxRecvSeq + recvSeq + 1)
    else recvSmaller s (s.maxRecvSeq - recvSeq)

/-- How a number is processed, with the numbers that were accepted, the last one first. -/
def recvSeqStep (p : BleSessKeyInfo × List UInt32) (recvSeq : UInt32) : BleSessKeyInfo × List UInt32 :=
  if bleSessRecvSeqCheck p.1 recvSeq then (bleSessRecvSeqUpdate p.1 recvSeq, recvSeq :: p.2) else p

/-! ## Distances -/

theorem le_interval (n m : UInt32) : m - n ≤ seqMaxInterval ↔ behind n m ≤ 30 := UInt32.le_iff_toNat_le

theorem gt_interval (n m : UInt32) : m - n > seqMaxInterval ↔ ¬ behind n m ≤ 30 := by
  rw [← le_interval, UInt32.not_le]

theorem bleSessRecvSeqCheck_iff {s : BleSessKeyInfo} (hmap : s.recvBitMap ≠ 0) (n : UInt32) :
    bleSessRecvSeqCheck s n = true ↔ Fresh 30 s.maxRecvSeq s.recvBitMap n := by
  simp only [bleSessRecvSeqCheck, wrap_eq_sub, ite_self, if_neg hmap, le_interval, gt_interval]
  by_cases hne : n = s.maxRecvSeq
  · simp [hne, Fresh]
  by_cases hahead : behind s.maxRecvSeq n ≤ 30
  · simp [hne, hahead, Fresh]
  by_cases hlate : behind n s.maxRecvSeq ≤ 30
  · have hbit := and_shift_one_eq_zero s.recvBitMap (show behind n s.maxRecvSeq < 32 by omega)
    rw [← sub_eq_ofNat] at hbit
    simp [hne, hahead, hlate, Fresh, hbit]
  · simp [hne, hahead, hlate, Fresh]

theorem bleSessRecvSeqUpdate_eq {s : BleSessKeyInfo} (hmap : s.recvBitMap ≠ 0) {n : UInt32} (hne : n ≠ s.maxRecvSeq) :
    bleSessRecvSeqUpdate s n =
      if behind s.maxRecvSeq n ≤ 30 then recvLarger s n (UInt32.ofNat (behind s.maxRecvSeq n))
      else recvSmaller s (UInt32.ofNat (behind n s.maxRecvSeq)) := by
  simp only [bleSessRecvSeqUpdate, wrap_eq_sub, ite_self, if_neg hmap, if_neg hne, le_interval]
  rw [sub_eq_ofNat s.maxRecvSeq, sub_eq_ofNat n]

/-! ## The window -/

theorem ne_zero_of_bit {map : UInt32} (h : bit map 0 = true) : map ≠ 0 := by
  rintro rfl
  cases h

/-- The state is a window over `s0` and the numbers accepted since. -/
structure SessWindow (s0 : UInt32) (p : BleSessKeyInfo × List UInt32) : Prop where
  window : WindowOver 30 s0 p.1.maxRecvSeq p.1.recvBitMap p.2
  self : bit p.1.recvBitMap 0 = true

theorem sessWindow_init (s0 : UInt32) : SessWindow s0 (bleSessRecvSeqInit s0, []) where
  window := by
    apply windowOver_start 30 (by decide) s0
    intro k hk _
    show bit 1 k = false
    rw [bit_one]
    exact decide_eq_false (by omega)
  self := bit_one 0

variable {s0 : UInt32} {p : BleSessKeyInfo × List UInt32}

theorem SessWindow.accepts_iff (h : SessWindow s0 p) (hadv : (progress s0 p.2).2 < 2 ^ 31) (n : UInt32) :
    bleSessRecvSeqCheck p.1 n = true ↔ Near 30 n (progress s0 p.2).1 ∧ n ∉ p.2 ++ [s0] := by
  rw [bleSessRecvSeqCheck_iff (ne_zero_of_bit h.self), h.window.fresh_iff (by omega) n]

theorem SessWindow.larger (h : SessWindow s0 p) (hadv : (progress s0 p.2).2 < 2 ^ 31) {n : UInt32}
    (hfresh : Fresh 30 p.1.maxRecvSeq p.1.recvBitMap n) (hn : behind p.1.maxRecvSeq n ≤ 30) :
    SessWindow s0 (recvLarger p.1 n (UInt32.ofNat (behind p.1.maxRecvSeq n)), n :: p.2) where
  window := by
    apply h.window.ahead (by omega) (by decide) hfresh hn
    intro k hk hk30
    have hd : behind p.1.maxRecvSeq n < 32 := by omega
    rw [recvLarger, bit_or, bit_shiftLeft _ hd (by omega), bit_one, decide_eq_false (p := k = 0) (by omega),
      Bool.or_false]
    rcases Nat.lt_trichotomy k (behind p.1.maxRecvSeq n) with hlt | heq | hgt
    · simp [Nat.not_le.mpr hlt, Nat.ne_of_lt hlt, Nat.not_lt.mpr (Nat.le_of_lt hlt)]
    -- the bit of the number that was the largest is its own bit, shifted
    · simp [heq, h.self]
    · simp [hgt, Nat.le_of_lt hgt, Nat.ne_of_gt hgt]
  self := by
    rw [recvLarger, bit_or, bit_one, decide_eq_true rfl, Bool.or_true]

theorem SessWindow.smaller (h : SessWindow s0 p) (hadv : (progress s0 p.2).2 < 2 ^ 31) {n : UInt32}
    (hfresh : Fresh 30 p.1.maxRecvSeq p.1.recvBitMap n) (hn : ¬ behind p.1.maxRecvSeq n ≤ 30) :
    SessWindow s0 (recvSmaller p.1 (UInt32.ofNat (behind n p.1.maxRecvSeq)), n :: p.2) := by
  have hlate := (hfresh.2.resolve_left hn).1
  have hbits : ∀ k < 32, bit (recvSmaller p.1 (UInt32.ofNat (behind n p.1.maxRecvSeq))).recvBitMap k =
      (bit p.1.recvBitMap k || decide (k = behind n p.1.maxRecvSeq)) := by
    intro k hk
    rw [recvSmaller, bit_or, bit_shift_one (by omega) hk]
  constructor
  · exact h.window.late (by omega) (by decide) hfresh hn fun k _ hk => hbits k (by omega)
  · rw [hbits 0 (by decide), h.self, Bool.true_or]

theorem SessWindow.step (h : SessWindow s0 p) (hadv : (progress s0 p.2).2 < 2 ^ 31) (n : UInt32) :
    SessWindow s0 (recvSeqStep p n) := by
  unfold recvSeqStep
  split_ifs with hcheck
  · have hfresh := (bleSessRecvSeqCheck_iff (ne_zero_of_bit h.self) n).mp hcheck
    rw [bleSessRecvSeqUpdate_eq (ne_zero_of_bit h.self) hfresh.1]
    split_ifs with hahead
    · exact h.larger hadv hfresh hahead
    · exact h.smaller hadv hfresh hahead
  · exact h

/-! ## Whole sessions -/

def WindowUntilRound (s0 : UInt32) (p : BleSessKeyInfo × List UInt32) : Prop :=
  (progress s0 p.2).2 < 2 ^ 31 → SessWindow s0 p

theorem recvSeqStep_progress (s0 : UInt32) (p : BleSessKeyInfo × List UInt32) (n : UInt32) :
    (progress s0 p.2).2 ≤ (progress s0 (recvSeqStep p n).2).2 := by
  unfold recvSeqStep
  split_ifs
  · exact progress_le s0 n p.2
  · exact Nat.le_refl _

theorem recvSeqStep_window (p : BleSessKeyInfo × List UInt32) (n : UInt32) (_ : True)
    (h : WindowUntilRound s0 p) : WindowUntilRound s0 (recvSeqStep p n) := by
  intro hadv
  have hbefore := Nat.lt_of_le_of_lt (recvSeqStep_progress s0 p n) hadv
  exact (h hbefore).step hbefore n

/-- With `accepted` the numbers accepted since the window was initialised with `s0`, the last one first: as long
as their modular maximum has moved on by less than `2 ^ 31`, a number is accepted if and only if it is within 30 of
that maximum and new, and none has been accepted twice. -/
theorem bleSessRecvSeq_window (s0 : UInt32) (ns : List UInt32) (s : BleSessKeyInfo) (accepted : List UInt32)
    (hrun : run recvSeqStep (bleSessRecvSeqInit s0, []) ns = (s, accepted))
    (hadv : (progress s0 accepted).2 < 2 ^ 31) :
    (∀ n, bleSessRecvSeqCheck s n = true ↔ Near 30 n (progress s0 accepted).1 ∧ n ∉ accepted ++ [s0]) ∧
      (accepted ++ [s0]).Nodup := by
  have hwindow : WindowUntilRound s0 (run recvSeqStep (bleSessRecvSeqInit s0, []) ns) :=
    run_invariant recvSeqStep_window (along_of_forall (fun _ _ _ => trivial) _) fun _ => sessWindow_init s0
  rw [hrun] at hwindow
  exact ⟨(hwindow hadv).accepts_iff hadv, (hwindow hadv).window.nodup⟩

/-- Across the wrap: 10 comes again, 5 and the number before the wrap are late, and 41 is too far ahead. -/
theorem bleSessRecvSeq_window_wrap :
    run recvSeqStep (bleSessRecvSeqInit 0xFFFFFFFA, []) [10, 0xFFFFFFFF, 10, 5, 41, 0xFFFFFFFF] =
      (⟨10, 0x10821⟩, [5, 0xFFFFFFFF, 10]) ∧
    (∀ n, bleSessRecvSeqCheck ⟨10, 0x10821⟩ n = true ↔
      Near 30 n (progress 0xFFFFFFFA [5, 0xFFFFFFFF, 10]).1 ∧ n ∉ [5, 0xFFFFFFFF, 10, 0xFFFFFFFA]) := by
  have hrun : run recvSeqStep (bleSessRecvSeqInit 0xFFFFFFFA, []) [10, 0xFFFFFFFF, 10, 5, 41, 0xFFFFFFFF] =
      (⟨10, 0x10821⟩, [5, 0xFFFFFFFF, 10]) := by decide
  exact ⟨hrun, (bleSessRecvSeq_window 0xFFFFFFFA _ _ _ hrun (by decide)).1⟩

end IotConnect.Ble
