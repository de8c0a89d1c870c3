import IotConnect.Common.JsonUtils
import IotConnect.Foundations.ReplayWindow
import IotConnect.Foundations.Trace
import Mathlib.Data.List.Chain

/-! # The sequence numbers of SoftAP control requests (`SoftCoapE2eCtrlSeqCheck` of `svc_softap_coap.c`)

The first number of a session is taken as it comes. After it a number is to be taken when it is at most 30 ahead of the
current one. Where the numbers wrap within the window, the comparison is the wrong way round: the numbers behind the
wrap are taken exactly when they are too far ahead. -/
namespace IotConnect.Softap
open ReplayWindow Trace
set_option autoImplicit false

def e2eCtrlSeqWindows : UInt32 := 30

/-- The bit `E2E_SEQ_SET` and the field `recvSeq` of a peer. -/
structure CtrlSeq where
  seqSet : Bool
  recvSeq : UInt32

def ctrlSeqValid (curSeq recvSeq : UInt32) : Bool :=
  if curSeq ≤ 0xFFFFFFFF - e2eCtrlSeqWindows then recvSeq > curSeq && recvSeq - curSeq ≤ e2eCtrlSeqWindows
  else if recvSeq > curSeq then true
  else recvSeq ≤ e2eCtrlSeqWindows && e2eCtrlSeqWindows - recvSeq < 0xFFFFFFFF - curSeq + 1

variable (J : JsonAdapter)

def softCoapE2eCtrlSeqCheck (payloadJsonObj : J.Obj) (s : CtrlSeq) : Bool × CtrlSeq :=
  match utilsJsonGetUint J payloadJsonObj "seq" with
  | .error _ => (false, s)
  | .ok recvSeq =>
    if s.seqSet = false then (true, ⟨true, recvSeq⟩)
    else if ctrlSeqValid s.recvSeq recvSeq = false then (false, s)
    else (true, { s with recvSeq := recvSeq })

/-- A control request, and the end of a negotiation that begins a new session. -/
inductive CtrlEvent
  | request (payloadJsonObj : J.Obj)
  | spekeFinished

/-- The numbers that were accepted in the session stand beside the peer, the last one first. -/
def ctrlStep (p : CtrlSeq × List UInt32) : CtrlEvent J → CtrlSeq × List UInt32
  | .request json =>
    let (accepted, s) := softCoapE2eCtrlSeqCheck J json p.1
    (s, if accepted then s.recvSeq :: p.2 else p.2)
  | .spekeFinished => ({ p.1 with seqSet := false }, [])

/-- How far the counter has moved on along numbers that stand in reverse order. -/
def travelled : List UInt32 → ℕ
  | newer :: older :: l => behind older newer + travelled (older :: l)
  | _ => 0

/-- No number comes again before the counter has moved on by `2 ^ 32`. -/
def NoneTwice (accepted : List UInt32) : Prop :=
  ∀ newer between older before after, accepted = after ++ newer :: between ++ older :: before →
    travelled (newer :: between ++ [older]) < 2 ^ 32 → newer ≠ older

/-- A number that comes after the first one is accepted if and only if it is 1 to 30 ahead of the current one, which it
then replaces. -/
def ChecksWindow (p : CtrlSeq × List UInt32) : CtrlEvent J → Prop
  | .request json => ∀ recvSeq, utilsJsonGetUint J json "seq" = .ok recvSeq → p.1.seqSet = true →
    ((softCoapE2eCtrlSeqCheck J json p.1).1 = true ↔
      1 ≤ behind p.1.recvSeq recvSeq ∧ behind p.1.recvSeq recvSeq ≤ 30) ∧
    ((softCoapE2eCtrlSeqCheck J json p.1).1 = true → (softCoapE2eCtrlSeqCheck J json p.1).2.recvSeq = recvSeq)
  | .spekeFinished => True

/-- A number of at most 30 comes only while the window does not reach the wrap. -/
def AwayFromWrap (p : CtrlSeq × List UInt32) : CtrlEvent J → Prop
  | .request json => ∀ recvSeq, utilsJsonGetUint J json "seq" = .ok recvSeq → p.1.seqSet = true →
    recvSeq ≤ e2eCtrlSeqWindows → p.1.recvSeq ≤ 0xFFFFFFFF - e2eCtrlSeqWindows
  | .spekeFinished => True

/-! ## One check -/

/-- At the wrap a small number is accepted exactly when it is outside of the window. -/
theorem ctrlSeqValid_iff (curSeq recvSeq : UInt32) :
    ctrlSeqValid curSeq recvSeq = true ↔
      if recvSeq ≤ e2eCtrlSeqWindows ∧ ¬ curSeq ≤ 0xFFFFFFFF - e2eCtrlSeqWindows then 30 < behind curSeq recvSeq
      else 1 ≤ behind curSeq recvSeq ∧ behind curSeq recvSeq ≤ 30 := by
  have hcur := curSeq.toNat_lt
  have hrecv := recvSeq.toNat_lt
  have hbehind := behind_eq curSeq recvSeq
  have hhigh : (0xFFFFFFFF - e2eCtrlSeqWindows).toNat = 2 ^ 32 - 31 := rfl
  have hlow : e2eCtrlSeqWindows.toNat = 30 := rfl
  have hdelta : (recvSeq - curSeq).toNat = behind curSeq recvSeq := rfl
  have hleft : (0xFFFFFFFF - curSeq + 1).toNat = (2 ^ 32 - curSeq.toNat) % 2 ^ 32 := by
    rw [UInt32.toNat_add, UInt32.toNat_sub]
    simp
    omega
  have hrest : (e2eCtrlSeqWindows - recvSeq).toNat = (2 ^ 32 - recvSeq.toNat + 30) % 2 ^ 32 := UInt32.toNat_sub ..
  unfold ctrlSeqValid
  simp only [UInt32.le_iff_toNat_le, UInt32.lt_iff_toNat_lt, gt_iff_lt, hhigh, hlow]
  split_ifs <;> simp only [Bool.and_eq_true, decide_eq_true_eq, hdelta, hleft, hrest, true_iff] <;> omega

theorem ctrlSeqValid_ne {curSeq recvSeq : UInt32} (h : ctrlSeqValid curSeq recvSeq = true) : recvSeq ≠ curSeq := by
  rintro rfl
  have hself := (ctrlSeqValid_iff recvSeq recvSeq).mp h
  rw [behind_self] at hself
  split_ifs at hself <;> omega

variable {J}

theorem check_of_unset {json : J.Obj} {s : CtrlSeq} {recvSeq : UInt32}
    (hget : utilsJsonGetUint J json "seq" = .ok recvSeq) (hset : s.seqSet = false) :
    softCoapE2eCtrlSeqCheck J json s = (true, ⟨true, recvSeq⟩) := by
  rw [softCoapE2eCtrlSeqCheck, hget]
  exact if_pos hset

theorem check_of_set {json : J.Obj} {s : CtrlSeq} {recvSeq : UInt32} (hget : utilsJsonGetUint J json "seq" = .ok recvSeq)
    (hset : s.seqSet = true) : softCoapE2eCtrlSeqCheck J json s =
      if ctrlSeqValid s.recvSeq recvSeq then (true, { s with recvSeq := recvSeq }) else (false, s) := by
  rw [softCoapE2eCtrlSeqCheck, hget]
  dsimp only
  rw [hset, if_neg Bool.noConfusion]
  cases ctrlSeqValid s.recvSeq recvSeq with
  | false => rfl
  | true => rfl

theorem checksWindow_iff (p : CtrlSeq × List UInt32) (e : CtrlEvent J) : ChecksWindow J p e ↔ AwayFromWrap J p e := by
  cases e with
  | spekeFinished => exact Iff.rfl
  | request json =>
    refine forall_congr' fun recvSeq => forall_congr' fun hget => forall_congr' fun hset => ?_
    have hround : recvSeq ≤ e2eCtrlSeqWindows → ¬ p.1.recvSeq ≤ 0xFFFFFFFF - e2eCtrlSeqWindows →
        1 ≤ behind p.1.recvSeq recvSeq := by
      intro hsmall hbig
      rw [Nat.one_le_iff_ne_zero, ne_eq, behind_eq_zero]
      intro heq
      rw [heq] at hbig
      exact hbig (UInt32.le_trans hsmall (by decide))
    have hvalid := ctrlSeqValid_iff p.1.recvSeq recvSeq
    rw [check_of_set hget hset]
    constructor
    · rintro ⟨haccepts, -⟩ hsmall
      by_contra hbig
      have hpos := hround hsmall hbig
      rw [if_pos ⟨hsmall, hbig⟩] at hvalid
      split_ifs at haccepts with hv
      · have := haccepts.mp rfl
        have := hvalid.mp hv
        omega
      · have := mt hvalid.mpr hv
        exact absurd (haccepts.mpr ⟨hpos, by omega⟩) not_false
    · intro haway
      rw [if_neg fun h => h.2 (haway h.1)] at hvalid
      rw [← hvalid]
      split_ifs with hv
      · exact ⟨by simp [hv], fun _ => rfl⟩
      · exact ⟨by simp [hv], fun h => absurd h not_false⟩

/-! ## No number twice -/

theorem ofNat_travelled (newer older : UInt32) (between : List UInt32) :
    UInt32.ofNat (travelled (newer :: between ++ [older])) = newer - older := by
  induction between generalizing newer with
  | nil => exact (sub_eq_ofNat older newer).symm
  | cons n between ih =>
    rw [List.cons_append, List.cons_append, travelled, UInt32.ofNat_add, ← sub_eq_ofNat, ← List.cons_append, ih]
    grind

theorem noneTwice_of_chain {accepted : List UInt32} (h : accepted.IsChain (· ≠ ·)) : NoneTwice accepted := by
  rintro newer between older before after rfl hlt heq
  have hround := ofNat_travelled newer older between
  have hself : newer - older = 0 := by rw [heq, UInt32.sub_self]
  rw [hself, ← UInt32.toNat_inj, UInt32.toNat_ofNat', Nat.mod_eq_of_lt hlt] at hround
  rw [List.append_assoc] at h
  have hchain := h.right_of_append
  -- the counter moves on with the number after the older one
  cases between with
  | nil => exact (List.isChain_cons_cons.mp hchain).1 heq
  | cons n between =>
    have hne := (List.isChain_cons_cons.mp hchain).1
    have hmoved := Nat.eq_zero_of_add_eq_zero_right hround
    exact hne (behind_eq_zero.mp hmoved).symm

/-- Numbers that were accepted one after the other differ, and the last one is the current one. -/
structure CtrlInv (p : CtrlSeq × List UInt32) : Prop where
  chain : p.2.IsChain (· ≠ ·)
  latest : p.2.head? = if p.1.seqSet then some p.1.recvSeq else none

theorem CtrlInv.step (p : CtrlSeq × List UInt32) (e : CtrlEvent J) (h : CtrlInv p) : CtrlInv (ctrlStep J p e) := by
  cases e with
  | spekeFinished => exact ⟨.nil, rfl⟩
  | request json =>
    unfold ctrlStep
    dsimp only
    cases hget : utilsJsonGetUint J json "seq" with
    | error ret =>
      rw [softCoapE2eCtrlSeqCheck, hget]
      exact h
    | ok recvSeq =>
      have hlatest := h.latest
      cases hset : p.1.seqSet with
      | false =>
        rw [hset, if_neg Bool.false_ne_true, List.head?_eq_none_iff] at hlatest
        rw [check_of_unset hget hset, hlatest]
        exact ⟨.singleton _, rfl⟩
      | true =>
        rw [hset, if_pos rfl] at hlatest
        rw [check_of_set hget hset]
        by_cases hvalid : ctrlSeqValid p.1.recvSeq recvSeq = true
        · obtain ⟨rest, hrest⟩ := List.head?_eq_some_iff.mp hlatest
          have hchain := h.chain
          rw [if_pos hvalid]
          rw [hrest] at hchain ⊢
          refine ⟨List.isChain_cons_cons.mpr ⟨ctrlSeqValid_ne hvalid, hchain⟩, ?_⟩
          dsimp only
          rw [hset]
          rfl
        · rw [if_neg hvalid]
          exact h

/-! ## Whole sessions -/

/-- Over every sequence of requests and negotiations, the checks keep to the window and no number is accepted twice
before the counter has come round, exactly as long as no number of at most 30 arrives when the current one is among the
last 30. -/
theorem ctrlSeq_along_iff (recvSeq : UInt32) (es : List (CtrlEvent J)) :
    Along (ctrlStep J) (fun p e => ChecksWindow J p e ∧ NoneTwice (ctrlStep J p e).2) (⟨false, recvSeq⟩, []) es ↔
      Along (ctrlStep J) (AwayFromWrap J) (⟨false, recvSeq⟩, []) es := by
  apply along_step_iff (fun p e _ (h : CtrlInv p) => h.step p e) _ ⟨.nil, rfl⟩
  intro p e h
  rw [checksWindow_iff]
  exact and_iff_left (noneTwice_of_chain (h.step p e).chain)

def sampleSeqJson : JsonAdapter := .ofParser fun _ => none

def sampleSeqRequest (seq : ℕ) : CtrlEvent sampleSeqJson := .request (.obj [(Bytes.ascii "seq", .num seq)])

/-- The number after the last one of all is refused. -/
theorem number_after_wrap_refused :
    ¬ Along (ctrlStep sampleSeqJson) (fun p e => ChecksWindow sampleSeqJson p e ∧ NoneTwice (ctrlStep sampleSeqJson p e).2)
      (⟨false, 0⟩, []) [sampleSeqRequest 0xFFFFFFFF, sampleSeqRequest 0] := by
  rintro ⟨-, ⟨hwindow, -⟩, -⟩
  have hchecks := (hwindow 0 rfl rfl).1
  exact absurd (hchecks.mpr (by decide)) (by decide)

end IotConnect.Softap
