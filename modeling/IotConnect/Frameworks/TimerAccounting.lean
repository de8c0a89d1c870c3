import IotConnect.Frameworks.Timer

/-! # What the timer source counts and reports

`EventSourceTimerAdd` compares the capacity with `cnt`, which grows when a round takes an added timer over and never
shrinks. `TimerSourcePrepare` and `TimerSourceCheck` look at every timer in the running list, also at finished ones,
and the check takes a timer for ready that is overdue, not one that has just come due. -/
namespace IotConnect.Timer
open Keyed Trace
set_option autoImplicit false

section Accounting
variable {C : Type}

/-! ## The capacity -/

/-- The timers that were added and not removed. -/
def EventSourceTimer.live (src : EventSourceTimer C) : ℕ := src.nodes.countP fun n => !n.delete

/-- The source with the ids that adds have given out and that were not removed since a round last began, and the number
of timers that were such when a round began. -/
structure Counted (C : Type) where
  core : Timers C
  fresh : List ℕ
  moved : ℕ

def Call.fresh (now : UInt32) (src : EventSourceTimer C) (ids : List ℕ) : Call C → List ℕ
  | .add type cb ms memory =>
    match (eventSourceTimerAdd now memory type cb ms src).1 with
    | .ok id => ids ++ [id]
    | .error _ => ids
  | .update _ _ _ => ids
  | .remove id => ids.erase id

def Counted.act (w : Counted C) (e : Event C) : Counted C :=
  match e with
  | .call c wait => ⟨w.core.act e, c.fresh (reading (w.core.now + wait)) w.core.src w.fresh, w.moved⟩
  | .prepare => ⟨w.core.act e, [], w.moved + w.fresh.length⟩
  | .check _ | .visit | .back => ⟨w.core.act e, w.fresh, w.moved⟩

def countedStep (w : Counted C) (e : Event C) : Counted C := if w.core.enabled e = true then w.act e else w

def countedInit (now : ℕ) : Counted C := ⟨⟨eventSourceTimerNew, .between, 0, now⟩, [], 0⟩

/-- `cnt` has counted the timers that were moved, and the fresh ones are in the add list. -/
structure Agrees (src : EventSourceTimer C) (fresh : List ℕ) (moved : ℕ) : Prop where
  cnt : src.cnt = moved
  added : src.addList.map TimerNode.id = fresh
  nonzero : ∀ id ∈ fresh, id ≠ 0

variable {src : EventSourceTimer C} {fresh : List ℕ} {moved : ℕ}

theorem Agrees.add (h : Agrees src fresh moved) (now : UInt32) (type : TimerType) (cb : Option C) (ms : UInt32)
    (memory : Bool) : Agrees ((Call.add type cb ms memory).apply now src)
      ((Call.add type cb ms memory).fresh now src fresh) moved := by
  simp only [Call.apply, Call.fresh]
  rcases add_cases now memory type cb ms src with heq | heq | heq <;> rw [heq]
  · exact h
  · exact ⟨h.cnt, h.added, h.nonzero⟩
  · refine ⟨h.cnt, by rw [List.map_append, h.added]; rfl, fun id hid => ?_⟩
    rcases List.mem_append.mp hid with hid | hid
    · exact h.nonzero id hid
    · rw [List.mem_singleton.mp hid]
      exact Nat.succ_ne_zero _

theorem Agrees.update (h : Agrees src fresh moved) (now : UInt32) (id : ℕ) (type : TimerType) (ms : UInt32) :
    Agrees (eventSourceTimerUpdate now id type ms src) fresh moved := by
  unfold eventSourceTimerUpdate
  split_ifs
  · exact h
  split
  case h_1 n hfind =>
    have hids := map_replaceFirst (f := TimerNode.id) (y := timerNodeUpdate now type ms n) hfind rfl
    exact ⟨h.cnt, hids.trans h.added, h.nonzero⟩
  case h_2 =>
    split
    · exact ⟨h.cnt, h.added, h.nonzero⟩
    · exact h

theorem Agrees.remove (h : Agrees src fresh moved) (id : ℕ) :
    Agrees (eventSourceTimerRemove id src) (fresh.erase id) moved := by
  unfold eventSourceTimerRemove
  split_ifs with hid
  · rwa [hid, List.erase_of_not_mem fun hmem => h.nonzero 0 hmem rfl]
  split
  · refine ⟨h.cnt, ?_, fun k hk => h.nonzero k (List.mem_of_mem_erase hk)⟩
    rw [← h.added, List.erase_eq_eraseP', List.eraseP_map]
    rfl
  case h_2 hfind =>
    have hnone : id ∉ fresh := by
      rw [← h.added, List.mem_map]
      rintro ⟨n, hn, hkey⟩
      exact List.find?_eq_none.mp hfind n hn (decide_eq_true hkey)
    rw [List.erase_of_not_mem hnone]
    split
    · exact ⟨h.cnt, h.added, h.nonzero⟩
    · exact h

theorem Agrees.call (h : Agrees src fresh moved) (now : UInt32) (c : Call C) :
    Agrees (c.apply now src) (c.fresh now src fresh) moved := by
  cases c with
  | add type cb ms memory => exact h.add now type cb ms memory
  | update id type ms => exact h.update now id type ms
  | remove id => exact h.remove id

theorem Agrees.step (w : Counted C) (e : Event C) (h : Agrees w.core.src w.fresh w.moved) :
    Agrees (countedStep w e).core.src (countedStep w e).fresh (countedStep w e).moved := by
  unfold countedStep
  split_ifs
  · cases e with
    | call c wait => exact h.call _ c
    | prepare =>
      refine ⟨?_, rfl, nofun⟩
      show w.core.src.cnt + w.core.src.addList.length = w.moved + w.fresh.length
      rw [h.cnt, ← h.added, List.length_map]
    | check wait => exact ⟨h.cnt, h.added, h.nonzero⟩
    | visit =>
      unfold Counted.act Timers.act
      dsimp only
      split <;> exact ⟨h.cnt, h.added, h.nonzero⟩
    | back => exact ⟨h.cnt, h.added, h.nonzero⟩
  · exact h

theorem cnt_eq_moved (now : ℕ) (es : List (Event C)) :
    (run countedStep (countedInit now) es).core.src.cnt = (run countedStep (countedInit now) es).moved := by
  have hkeep : ∀ (w : Counted C) e, True → Agrees w.core.src w.fresh w.moved →
      Agrees (countedStep w e).core.src (countedStep w e).fresh (countedStep w e).moved := fun w e _ h => h.step w e
  have hinit : Agrees (countedInit now : Counted C).core.src [] 0 := ⟨rfl, rfl, nofun⟩
  exact (run_invariant hkeep (along_of_forall (fun _ _ _ => trivial) _) hinit).cnt

theorem add_max_iff (now : UInt32) (memory : Bool) (type : TimerType) (cb : Option C) (ms : UInt32)
    (src : EventSourceTimer C) :
    (eventSourceTimerAdd now memory type cb ms src).1 = .error .fwkErrSourceTimerMax ↔ eventTimerMaxNum ≤ src.cnt := by
  unfold eventSourceTimerAdd
  split_ifs with hmax
  · exact iff_of_true rfl hmax
  · exact iff_of_false nofun hmax
  · exact iff_of_false nofun hmax

/-- An add is refused for lack of capacity exactly when there are `EVENT_TIMER_MAX_NUM` timers if and only if this does
not depend on whether the timers that are there are counted or those that have ever been taken over. -/
theorem capacity_exact_iff (start : ℕ) (es : List (Event C)) (now : UInt32) (memory : Bool) (type : TimerType)
    (cb : Option C) (ms : UInt32) :
    ((eventSourceTimerAdd now memory type cb ms (run countedStep (countedInit start) es).core.src).1 =
        .error .fwkErrSourceTimerMax ↔
      eventTimerMaxNum ≤ (run countedStep (countedInit start) es).core.src.live) ↔
    (eventTimerMaxNum ≤ (run countedStep (countedInit start) es).moved ↔
      eventTimerMaxNum ≤ (run countedStep (countedInit start) es).core.src.live) := by
  rw [add_max_iff, cnt_eq_moved]

/-- All timers are taken over, then the first one is removed and swept. -/
def oneRemoved : List (Event Unit) :=
  List.replicate eventTimerMaxNum (.call (.add .once (some ()) 10 true) 0) ++
    [.prepare, .check 0, .call (.remove 1) 0, .prepare]

/-- No round takes the timers over. -/
def noneMoved : List (Event Unit) := List.replicate eventTimerMaxNum (.call (.add .once (some ()) 10 true) 0)

theorem capacity_wrong :
    ¬ ((eventSourceTimerAdd 0 true .once (some ()) 10 (run countedStep (countedInit 0) oneRemoved).core.src).1 =
        .error .fwkErrSourceTimerMax ↔ eventTimerMaxNum ≤ (run countedStep (countedInit 0) oneRemoved).core.src.live) ∧
      ¬ ((eventSourceTimerAdd 0 true .once (some ()) 10 (run countedStep (countedInit 0) noneMoved).core.src).1 =
        .error .fwkErrSourceTimerMax ↔ eventTimerMaxNum ≤ (run countedStep (countedInit 0) noneMoved).core.src.live) := by
  decide +kernel

/-! ## What a round is told -/

/-- The least time that is left to a timer that can still fire. -/
def EventSourceTimer.soonest (src : EventSourceTimer C) : UInt32 :=
  (src.nodes.filter TimerNode.runnable).foldl (fun timeout n => min timeout n.remainTime) 0xFFFFFFFF

theorem le_foldl_min {β : Type} (f : β → UInt32) (l : List β) (x a : UInt32) :
    x ≤ l.foldl (fun t b => min t (f b)) a ↔ x ≤ a ∧ ∀ b ∈ l, x ≤ f b := by
  induction l generalizing a with
  | nil => simp
  | cons b l ih =>
    rw [List.foldl_cons, ih, List.forall_mem_cons]
    rw [Std.le_min_iff, and_assoc]

theorem le_prepare_iff (src : EventSourceTimer C) (x : UInt32) :
    x ≤ (timerSourcePrepare src).2 ↔ x ≤ 0xFFFFFFFF ∧ ∀ n ∈ src.nodes, n.delete = false → x ≤ n.remainTime := by
  refine (le_foldl_min _ _ x _).trans ?_
  simp only [timerSourceUpdate, EventSourceTimer.nodes, List.mem_filter, Bool.not_eq_true', and_imp]

theorem le_soonest_iff (src : EventSourceTimer C) (x : UInt32) :
    x ≤ src.soonest ↔ x ≤ 0xFFFFFFFF ∧ ∀ n ∈ src.nodes, n.runnable = true → x ≤ n.remainTime := by
  refine (le_foldl_min _ _ x _).trans ?_
  simp only [List.mem_filter, and_imp]

/-- The timeout is that of the timers that can still fire exactly when no finished one has less time left. -/
theorem prepare_eq_soonest_iff (src : EventSourceTimer C) :
    (timerSourcePrepare src).2 = src.soonest ↔
      ∀ n ∈ src.nodes, n.delete = false → n.finish = true → src.soonest ≤ n.remainTime := by
  have hself := (le_soonest_iff src src.soonest).mp (UInt32.le_refl _)
  have hprepared := (le_prepare_iff src (timerSourcePrepare src).2).mp (UInt32.le_refl _)
  constructor
  · intro heq n hn hdelete _
    rw [← heq]
    exact hprepared.2 n hn hdelete
  · intro hfinish
    apply UInt32.le_antisymm
    · rw [le_soonest_iff]
      refine ⟨hprepared.1, fun n hn hrun => hprepared.2 n hn ?_⟩
      simp only [TimerNode.runnable, Bool.and_eq_true, Bool.not_eq_true'] at hrun
      exact hrun.1
    · rw [le_prepare_iff]
      refine ⟨hself.1, fun n hn hdelete => ?_⟩
      cases hfin : n.finish with
      | true => exact hfinish n hn hdelete hfin
      | false => exact hself.2 n hn (by simp [TimerNode.runnable, hdelete, hfin])

/-- The time since the node was looked at. -/
def TimerNode.passed (now : UInt32) (n : TimerNode C) : UInt32 := utilsDeltaTime now n.lastTime

theorem check_remainTime (now : UInt32) (n : TimerNode C) :
    (n.check now).remainTime = 0 ↔ n.remainTime ≤ n.passed now := by
  simp only [TimerNode.check, TimerNode.passed]
  split_ifs <;> grind

/-- A timer that can no longer fire is overdue only together with one that can, and a timer that has just come due only
together with one that is overdue. -/
structure CheckFits (now : UInt32) (src : EventSourceTimer C) : Prop where
  overdue : ∀ n ∈ src.timerList, n.runnable = false → n.remainTime < n.passed now →
    ∃ m ∈ src.timerList, m.runnable = true ∧ m.remainTime ≤ m.passed now
  justDue : ∀ n ∈ src.timerList, n.runnable = true → n.remainTime = n.passed now →
    ∃ m ∈ src.timerList, m.remainTime < m.passed now

theorem check_iff (now : UInt32) (src : EventSourceTimer C) :
    (timerSourceCheck now src).2 = true ↔ ∃ n ∈ src.timerList, n.remainTime < n.passed now := by
  simp [timerSourceCheck, TimerNode.passed]

theorem ready_iff (now : UInt32) (src : EventSourceTimer C) :
    (∃ n ∈ (timerSourceCheck now src).1.timerList, n.runnable = true ∧ n.remainTime = 0) ↔
      ∃ n ∈ src.timerList, n.runnable = true ∧ n.remainTime ≤ n.passed now := by
  simp only [timerSourceCheck, List.mem_map, exists_exists_and_eq_and, check_remainTime]
  rfl

theorem check_exact_iff (now : UInt32) (src : EventSourceTimer C) :
    ((timerSourceCheck now src).2 = true ↔
      ∃ n ∈ (timerSourceCheck now src).1.timerList, n.runnable = true ∧ n.remainTime = 0) ↔ CheckFits now src := by
  rw [check_iff, ready_iff]
  constructor
  · intro h
    refine ⟨fun n hn _ hlt => h.mp ⟨n, hn, hlt⟩, fun n hn hrun heq => h.mpr ⟨n, hn, hrun, ?_⟩⟩
    rw [heq]
    exact UInt32.le_refl _
  · intro h
    constructor
    · rintro ⟨n, hn, hlt⟩
      cases hrun : n.runnable with
      | true => exact ⟨n, hn, hrun, UInt32.le_of_lt hlt⟩
      | false => exact h.overdue n hn hrun hlt
    · rintro ⟨n, hn, hrun, hle⟩
      by_cases heq : n.remainTime = n.passed now
      · exact h.justDue n hn hrun heq
      · exact ⟨n, hn, UInt32.lt_of_le_of_ne hle heq⟩

/-- The timeout of the round is exact if and only if no finished timer has less time left than those that can still
fire, and the check is exact if and only if `CheckFits` holds. -/
theorem round_exact_iff (src : EventSourceTimer C) (now : UInt32) :
    ((timerSourcePrepare src).2 = src.soonest ↔
      ∀ n ∈ src.nodes, n.delete = false → n.finish = true → src.soonest ≤ n.remainTime) ∧
    (((timerSourceCheck now src).2 = true ↔
      ∃ n ∈ (timerSourceCheck now src).1.timerList, n.runnable = true ∧ n.remainTime = 0) ↔ CheckFits now src) :=
  ⟨prepare_eq_soonest_iff src, check_exact_iff now src⟩

/-- A timer that fires once, and is finished. -/
def onceFired : List (Event Unit) :=
  [.call (.add .once (some ()) 10 true) 0, .prepare, .check 20, .visit, .back, .visit]

theorem finished_timer_reported :
    (timerSourcePrepare (run countedStep (countedInit 0) onceFired).core.src).2 ≠
        (run countedStep (countedInit 0) onceFired).core.src.soonest ∧
      ¬ ((timerSourceCheck 40 (run countedStep (countedInit 0) onceFired).core.src).2 = true ↔
        ∃ n ∈ (timerSourceCheck 40 (run countedStep (countedInit 0) onceFired).core.src).1.timerList,
          n.runnable = true ∧ n.remainTime = 0) := by
  decide

end Accounting

end IotConnect.Timer
