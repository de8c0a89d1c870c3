import IotConnect.LocalControl.Replay

/-! # The sequence numbers of a session (`SeqNumCheck`, `SessCoapRecvSeqCheck`)

The check of a number against the latest one is right for every window that is allowed, on both sides of the wrap. So a
session takes the numbers that are near its latest one and new, and no others, until the latest one has come halfway
round. -/
namespace IotConnect.LocalControl
open ReplayWindow Trace
set_option autoImplicit false

/-- One received number, with the numbers accepted so far, the last one first. -/
def seqStep (p : SeqWindow × List UInt32) (n : UInt32) : SeqWindow × List UInt32 :=
  match sessSeqAccept p.1 n with
  | none => p
  | some w => (w, n :: p.2)

/-! ## One number -/

theorem seqNumCheck_eq_some_iff {window : UInt32} (hzero : window ≠ 0) (hmax : window ≤ seqNumWindowMax)
    (curSeq recvSeq : UInt32) (isSmall : Bool) (delta : UInt32) :
    seqNumCheck curSeq recvSeq window = some (isSmall, delta) ↔
      recvSeq ≠ curSeq ∧ delta ≤ window ∧ delta = if isSmall then curSeq - recvSeq else recvSeq - curSeq := by
  have hsmall : window.toNat ≤ 100 := UInt32.le_iff_toNat_le.mp hmax
  have hdelta (n m : UInt32) : m - n ≤ window ↔ behind n m ≤ window.toNat := UInt32.le_iff_toNat_le
  rw [seqNumCheck_window hzero hmax]
  by_cases hne : recvSeq = curSeq
  · simp [hne]
  -- a number is not near on both sides
  have hround := behind_add_behind hne
  rw [if_neg hne]
  by_cases hahead : behind curSeq recvSeq ≤ window.toNat
  · have hbehind : ¬ behind recvSeq curSeq ≤ window.toNat := by omega
    rw [← hdelta] at hbehind
    rw [if_pos hahead]
    rw [← hdelta] at hahead
    cases isSmall with
    | false => grind
    | true => grind
  · rw [if_neg hahead]
    simp only [← hdelta] at hahead ⊢
    cases isSmall with
    | false => grind
    | true => grind

theorem sessSeqAccept_isSome_iff (w : SeqWindow) (n : UInt32) :
    (sessSeqAccept w n).isSome = true ↔ Fresh 30 w.recvSeq w.seqMap n := by
  constructor
  · intro h
    obtain ⟨w', hw'⟩ := Option.isSome_iff_exists.mp h
    exact (sessSeqAccept_eq_some hw').1
  · rintro ⟨hne, hnear⟩
    have hwithin {d : UInt32} (hd : d.toNat ≤ 30) : ¬ localControlSeqWindow < d :=
      UInt32.not_lt.mpr (UInt32.le_iff_toNat_le.mpr hd)
    rw [sessSeqAccept, seqNumCheck_eq, if_neg hne]
    by_cases hahead : behind w.recvSeq n ≤ 30
    · rw [if_pos hahead]
      dsimp only
      rw [if_neg (hwithin hahead), if_neg Bool.false_ne_true]
      rfl
    · obtain ⟨hlate, hbit⟩ := hnear.resolve_left hahead
      have hclear := (and_shift_one_eq_zero w.seqMap (show behind n w.recvSeq < 32 by omega)).mpr hbit
      rw [← sub_eq_ofNat] at hclear
      rw [if_neg hahead, if_pos hlate]
      dsimp only
      rw [if_neg (hwithin hlate), if_pos rfl, if_neg (not_not.mpr hclear)]
      rfl

/-! ## Whole sessions -/

def SeqWindowUntilRound (start : UInt32) (p : SeqWindow × List UInt32) : Prop :=
  (progress start p.2).2 < 2 ^ 31 → WindowOver 30 start p.1.recvSeq p.1.seqMap p.2

theorem seqStep_window {start : UInt32} (p : SeqWindow × List UInt32) (n : UInt32) (_ : True)
    (h : SeqWindowUntilRound start p) : SeqWindowUntilRound start (seqStep p n) := by
  intro hadv
  unfold seqStep at hadv ⊢
  cases haccept : sessSeqAccept p.1 n with
  | none =>
    rw [haccept] at hadv
    exact h hadv
  | some w =>
    rw [haccept] at hadv
    have hbefore := Nat.lt_of_le_of_lt (progress_le start n p.2) hadv
    exact sessSeqAccept_window (h hbefore) hbefore haccept

/-- For every window that is allowed the check finds a number exactly when it is another one at a distance of at most
the window, and says on which side and how far. A session whose latest number has moved on by less than `2 ^ 31` takes a
number exactly when it is within 30 of the latest one and new, and has taken none twice. -/
theorem sessSeq_window {window : UInt32} (hzero : window ≠ 0) (hmax : window ≤ seqNumWindowMax) (curSeq recvSeq : UInt32)
    (start : UInt32) (ns : List UInt32) (w : SeqWindow) (accepted : List UInt32)
    (hrun : run seqStep (⟨start, 0⟩, []) ns = (w, accepted)) (hadv : (progress start accepted).2 < 2 ^ 31) :
    (∀ isSmall delta, seqNumCheck curSeq recvSeq window = some (isSmall, delta) ↔
      recvSeq ≠ curSeq ∧ delta ≤ window ∧ delta = if isSmall then curSeq - recvSeq else recvSeq - curSeq) ∧
    (∀ n, (sessSeqAccept w n).isSome = true ↔ Near 30 n (progress start accepted).1 ∧ n ∉ accepted ++ [start]) ∧
    (accepted ++ [start]).Nodup := by
  have hstart : WindowOver 30 start start 0 [] := windowOver_start 30 (by decide) start fun k _ _ => Nat.zero_testBit k
  have hwindow : SeqWindowUntilRound start (run seqStep (⟨start, 0⟩, []) ns) :=
    run_invariant seqStep_window (along_of_forall (fun _ _ _ => trivial) _) fun _ => hstart
  rw [hrun] at hwindow
  refine ⟨seqNumCheck_eq_some_iff hzero hmax curSeq recvSeq, fun n => ?_, (hwindow hadv).nodup⟩
  rw [sessSeqAccept_isSome_iff, (hwindow hadv).fresh_iff (show (progress start accepted).2 + 2 * 30 < 2 ^ 32 by omega)]

/-- Across the wrap: 4 is ahead of the last number of all, which comes late and not again. -/
theorem sessSeq_window_wrap :
    run seqStep (⟨0xFFFFFFF0, 0⟩, []) [4, 0xFFFFFFFF, 4, 0xFFFFFFFF, 40] = (⟨4, 0x100020⟩, [0xFFFFFFFF, 4]) ∧
    seqNumCheck 0xFFFFFFF0 4 30 = some (false, 20) ∧
    ∀ n, (sessSeqAccept ⟨4, 0x100020⟩ n).isSome = true ↔
      Near 30 n (progress 0xFFFFFFF0 [0xFFFFFFFF, 4]).1 ∧ n ∉ [0xFFFFFFFF, 4, 0xFFFFFFF0] := by
  have hrun : run seqStep (⟨0xFFFFFFF0, 0⟩, []) [4, 0xFFFFFFFF, 4, 0xFFFFFFFF, 40] =
      (⟨4, 0x100020⟩, [0xFFFFFFFF, 4]) := rfl
  obtain ⟨hcheck, haccept, -⟩ := @sessSeq_window 30 (by decide) (by decide) 0xFFFFFFF0 4 0xFFFFFFF0 _ _ _ hrun
    (by decide)
  exact ⟨hrun, (hcheck false 20).mpr (by decide), haccept⟩

end IotConnect.LocalControl
