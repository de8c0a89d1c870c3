import IotConnect.Common.Errcode
import IotConnect.Foundations.Keyed
import IotConnect.Foundations.Trace

/-! # Watchdogs and tasks without one (`dfx_watch_dog.c`)

Tasks register watchdogs in `watchDogList` and note in `recordList` that they have none; one lock guards both lists.
`DfxDelNoDogTaskRecord` walks `watchDogList` in place of `recordList`. The fields `name`, `id` and `list` are at the end
of both nodes and in the same order, so `node->id` is that of the watchdog: the function removes the task's watchdog,
frees a pointer into its middle, and returns without the unlock. It never removes a record. -/
namespace IotConnect.Dfx
open Trace Keyed
set_option autoImplicit false

variable {T H N : Type}

def dfxWatchDogScheduleInterval : UInt32 := 2 * 1000

structure WatchdogNode (T H N : Type) where
  flag : Bool
  timeoutMs : UInt32
  runningMs : UInt32
  hdl : Option H
  name : N
  id : T

structure RecordNode (T N : Type) where
  name : N
  id : T

/-- `locked` is the state of the mutex: `WATCH_DOG_LOCK` ignores whether it was obtained. -/
structure WatchdogContext (T H N : Type) where
  isRunning : Bool
  watchDogList : List (WatchdogNode T H N)
  recordList : List (RecordNode T N)
  locked : Bool

def watchDogLock (ctx : WatchdogContext T H N) : WatchdogContext T H N := { ctx with locked := true }
def watchDogUnlock (ctx : WatchdogContext T H N) : WatchdogContext T H N := { ctx with locked := false }

/-- The loop of `WatchDogProc`, which ends at the first watchdog that ran out: its handler, if one did. -/
def watchDogScan : List (WatchdogNode T H N) → Option (Option H) × List (WatchdogNode T H N)
  | [] => (none, [])
  | node :: rest =>
    if node.timeoutMs = 0 ∨ node.flag = false then
      let (func, rest) := watchDogScan rest
      (func, node :: rest)
    else if node.runningMs < node.timeoutMs then
      let (func, rest) := watchDogScan rest
      (func, { node with runningMs := node.runningMs + dfxWatchDogScheduleInterval } :: rest)
    else (some node.hdl, { node with runningMs := 0 } :: rest)

/-- `WatchDogProc` up to the call of the handler: whether the task goes on, and the handler of a timeout. -/
def watchDogProc (ctx : WatchdogContext T H N) : (Bool × Option (Option H)) × WatchdogContext T H N :=
  let ctx := watchDogLock ctx
  if ctx.isRunning = false then ((false, none), watchDogUnlock ctx)
  else
    let (func, watchDogList) := watchDogScan ctx.watchDogList
    ((true, func), watchDogUnlock { ctx with watchDogList := watchDogList })

def dfxAddWatchDog (malloc : Bool) (id : T) (timeoutMs : UInt32) (hdl : Option H) (name : N)
    (ctx : WatchdogContext T H N) : IotcRet × WatchdogContext T H N :=
  if timeoutMs = 0 then (.errParamInvalid, ctx)
  else if malloc = false then (.memErrMalloc, ctx)
  else
    let newNode : WatchdogNode T H N := ⟨false, timeoutMs, 0, hdl, name, id⟩
    let ctx := watchDogLock ctx
    (.ok, watchDogUnlock { ctx with watchDogList := ctx.watchDogList ++ [newNode] })

def dfxRecordNoDogTask (malloc : Bool) (id : T) (name : N) (ctx : WatchdogContext T H N) : WatchdogContext T H N :=
  if malloc = false then ctx
  else
    let ctx := watchDogLock ctx
    watchDogUnlock { ctx with recordList := ctx.recordList ++ [⟨name, id⟩] }

variable [DecidableEq T]

/-- The flag says that a watchdog was fed. -/
def dfxFeedWatchDog (id : T) (ctx : WatchdogContext T H N) : Bool × WatchdogContext T H N :=
  let ctx := watchDogLock ctx
  match ctx.watchDogList.find? fun node => node.id = id with
  | none => (false, watchDogUnlock ctx)
  | some node =>
    let fed := { node with flag := true, runningMs := 0 }
    (true, watchDogUnlock { ctx with watchDogList := replaceFirst (fun node => node.id = id) fed ctx.watchDogList })

def dfxDelWatchDog (id : T) (ctx : WatchdogContext T H N) : WatchdogContext T H N :=
  let ctx := watchDogLock ctx
  watchDogUnlock { ctx with watchDogList := ctx.watchDogList.eraseP fun node => node.id = id }

def dfxDelNoDogTaskRecord (id : T) (ctx : WatchdogContext T H N) : WatchdogContext T H N :=
  let ctx := watchDogLock ctx
  if ctx.watchDogList.any fun node => node.id = id then
    -- it returns from inside the loop
    { ctx with watchDogList := ctx.watchDogList.eraseP fun node => node.id = id }
  else watchDogUnlock ctx

inductive WatchDogCall (T H N : Type)
  | add (malloc : Bool) (id : T) (timeoutMs : UInt32) (hdl : Option H) (name : N)
  | feed (id : T)
  | del (id : T)
  | record (malloc : Bool) (id : T) (name : N)
  | delRecord (id : T)
  | proc

def watchDogStep (ctx : WatchdogContext T H N) : WatchDogCall T H N → WatchdogContext T H N
  | .add malloc id timeoutMs hdl name => (dfxAddWatchDog malloc id timeoutMs hdl name ctx).2
  | .feed id => (dfxFeedWatchDog id ctx).2
  | .del id => dfxDelWatchDog id ctx
  | .record malloc id name => dfxRecordNoDogTask malloc id name ctx
  | .delRecord id => dfxDelNoDogTaskRecord id ctx
  | .proc => (watchDogProc ctx).2

/-! ## Independence -/

/-- One record of the task is removed, or there is none and the list is left as it is. -/
def RemovesRecord (id : T) (before after : List (RecordNode T N)) : Prop :=
  (∃ front node back, node.id = id ∧ before = front ++ node :: back ∧ after = front ++ back) ∨
    (∀ node ∈ before, node.id ≠ id) ∧ after = before

/-- A call gives the lock back; of the two lists it works on its own one, and a removal of a record removes one record
of the task. -/
def Independent (ctx : WatchdogContext T H N) (call : WatchDogCall T H N) : Prop :=
  let ctx' := watchDogStep ctx call
  ctx'.locked = false ∧
    match call with
    | .record _ _ _ => ctx'.watchDogList = ctx.watchDogList
    | .delRecord id => ctx'.watchDogList = ctx.watchDogList ∧ RemovesRecord id ctx.recordList ctx'.recordList
    | _ => ctx'.recordList = ctx.recordList

/-- A record is removed only by a task with neither a watchdog nor a record. -/
def NothingToRemove (ctx : WatchdogContext T H N) : WatchDogCall T H N → Prop
  | .delRecord id => (∀ node ∈ ctx.watchDogList, node.id ≠ id) ∧ ∀ node ∈ ctx.recordList, node.id ≠ id
  | _ => True

omit [DecidableEq T] in
theorem removesRecord_self_iff (id : T) (l : List (RecordNode T N)) :
    RemovesRecord id l l ↔ ∀ node ∈ l, node.id ≠ id := by
  constructor
  · rintro (⟨front, node, back, -, hbefore, hafter⟩ | ⟨hnone, -⟩)
    · have hlength := congrArg List.length (hbefore.symm.trans hafter)
      rw [List.length_append, List.length_append, List.length_cons] at hlength
      omega
    · exact hnone
  · intro hnone
    exact .inr ⟨hnone, rfl⟩

theorem independent_delRecord_iff (id : T) (ctx : WatchdogContext T H N) :
    Independent ctx (.delRecord id) ↔ NothingToRemove ctx (.delRecord id) := by
  unfold Independent NothingToRemove watchDogStep dfxDelNoDogTaskRecord watchDogLock watchDogUnlock
  dsimp only
  by_cases hdog : ctx.watchDogList.any (fun node => node.id = id) = true
  · rw [if_pos hdog]
    obtain ⟨node, hnode, hid⟩ := List.any_eq_true.mp hdog
    exact ⟨fun h => absurd h.1 (by simp), fun h => absurd (of_decide_eq_true hid) (h.1 node hnode)⟩
  · rw [if_neg hdog]
    have hnone : ∀ node ∈ ctx.watchDogList, node.id ≠ id := fun node hnode hid =>
      hdog (List.any_eq_true.mpr ⟨node, hnode, decide_eq_true hid⟩)
    rw [removesRecord_self_iff]
    exact ⟨fun h => ⟨hnone, h.2.2⟩, fun h => ⟨rfl, rfl, h.2⟩⟩

theorem independent_iff {ctx : WatchdogContext T H N} (h : ctx.locked = false) (call : WatchDogCall T H N) :
    Independent ctx call ↔ NothingToRemove ctx call := by
  cases call with
  | delRecord id => exact independent_delRecord_iff id ctx
  | add malloc id timeoutMs hdl name =>
    refine iff_of_true ?_ trivial
    unfold Independent watchDogStep dfxAddWatchDog
    dsimp only
    split_ifs
    · exact ⟨h, rfl⟩
    · exact ⟨h, rfl⟩
    · exact ⟨rfl, rfl⟩
  | feed id =>
    refine iff_of_true ?_ trivial
    unfold Independent watchDogStep dfxFeedWatchDog
    dsimp only
    split
    · exact ⟨rfl, rfl⟩
    · exact ⟨rfl, rfl⟩
  | del id => exact iff_of_true ⟨rfl, rfl⟩ trivial
  | record malloc id name =>
    refine iff_of_true ?_ trivial
    unfold Independent watchDogStep dfxRecordNoDogTask
    dsimp only
    split_ifs
    · exact ⟨h, rfl⟩
    · exact ⟨rfl, rfl⟩
  | proc =>
    refine iff_of_true ?_ trivial
    unfold Independent watchDogStep watchDogProc
    dsimp only
    split_ifs
    · exact ⟨rfl, rfl⟩
    · exact ⟨rfl, rfl⟩

/-- The lists behind `DfxWatchDogInit`. -/
def WatchdogContext.init (isRunning : Bool) : WatchdogContext T H N := ⟨isRunning, [], [], false⟩

/-- The calls are independent exactly if `DfxDelNoDogTaskRecord` is only called by tasks that have neither a watchdog
nor a record at that time. -/
theorem independent_along_iff (isRunning : Bool) (calls : List (WatchDogCall T H N)) :
    Along watchDogStep Independent (.init isRunning) calls ↔
      Along watchDogStep NothingToRemove (.init isRunning) calls := by
  have hinit : (WatchdogContext.init isRunning : WatchdogContext T H N).locked = false := rfl
  have hkept : ∀ (ctx : WatchdogContext T H N) call, NothingToRemove ctx call → ctx.locked = false →
      (watchDogStep ctx call).locked = false := fun ctx call hcall h => ((independent_iff h call).mpr hcall).1
  exact along_step_iff hkept (fun _ call h => independent_iff h call) hinit calls

/-- A task with a watchdog and a record removes its record: the record stays, the watchdog is gone, and the lock is
taken. -/
theorem record_removal_not_independent :
    let calls : List (WatchDogCall ℕ Unit Unit) := [.add true 1 5000 none (), .record true 1 (), .delRecord 1]
    let ctx := run watchDogStep (.init true) calls
    ¬ Along watchDogStep Independent (.init true) calls ∧
      ctx.watchDogList.length = 0 ∧ ctx.recordList.length = 1 ∧ ctx.locked = true := by
  refine ⟨fun h => ?_, by decide⟩
  have hlocked := h.2.2.1.1
  revert hlocked
  decide

end IotConnect.Dfx
