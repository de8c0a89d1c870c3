import IotConnect.Common.Utils
import IotConnect.Foundations.Keyed
import IotConnect.Foundations.Trace

/-! # The timer source (`event_source_timer.c`)

Running timers are in one list, timers that were added since the last round in a second one. A round of the event
loop prepares the source, checks it and, if the check found a timer that is ready, dispatches it. The state bits of
a node are shared: a removal marks a running timer for the next sweep, a one-shot timer that has fired is marked as
finished, and an update clears both marks.

`Timers` is the source together with the place in the round. The loop over the running timers is cut at the
callbacks, so that the calls a callback makes are events like those from outside. Callbacks are values of a
type `C`. -/
namespace IotConnect.Timer
open Keyed
set_option autoImplicit false

inductive TimerType
  | once
  | repeated
  deriving DecidableEq

inductive TimerStatus
  | invalid
  | running
  | finish
  deriving DecidableEq

/-- `TimerNode`; of its bit map, the two bits that are ever set. -/
structure TimerNode (C : Type) where
  delete : Bool
  finish : Bool
  id : ℕ
  interval : UInt32
  remainTime : UInt32
  lastTime : UInt32
  type : TimerType
  cb : Option C
  status : TimerStatus
  deriving DecidableEq

/-- `EventSourceTimer`. The numbers of timers and of ids are counted without the bounds of their C types. -/
structure EventSourceTimer (C : Type) where
  cnt : ℕ
  idBase : ℕ
  timerList : List (TimerNode C)
  addList : List (TimerNode C)

section Source
variable {C : Type}

def TimerNode.runnable (n : TimerNode C) : Bool := !n.delete && !n.finish

def EventSourceTimer.nodes (src : EventSourceTimer C) : List (TimerNode C) := src.timerList ++ src.addList

def eventSourceTimerNew : EventSourceTimer C := ⟨0, 0, [], []⟩

def eventTimerMaxNum : ℕ := 255

/-! ## A round -/

def timerSourceUpdate (src : EventSourceTimer C) : EventSourceTimer C :=
  { src with cnt := src.cnt + src.addList.length, timerList := src.timerList ++ src.addList, addList := [] }

def timerSourcePrepare (src : EventSourceTimer C) : EventSourceTimer C × UInt32 :=
  let src := timerSourceUpdate src
  let kept := src.timerList.filter fun n => !n.delete
  ({ src with timerList := kept }, kept.foldl (fun timeout n => min timeout n.remainTime) 0xFFFFFFFF)

/-- The body of the loop of `TimerSourceCheck`. -/
def TimerNode.check (now : UInt32) (n : TimerNode C) : TimerNode C :=
  let delta := utilsDeltaTime now n.lastTime
  { n with remainTime := if n.remainTime < delta then 0 else n.remainTime - delta, lastTime := now }

def timerSourceCheck (now : UInt32) (src : EventSourceTimer C) : EventSourceTimer C × Bool :=
  ({ src with timerList := src.timerList.map (TimerNode.check now) },
    src.timerList.any fun n => n.remainTime < utilsDeltaTime now n.lastTime)

/-- What `TimerSourceDispatch` does about a node without a callback. -/
def TimerNode.markDelete (n : TimerNode C) : TimerNode C := { n with delete := true }

/-- What `TimerSourceDispatch` does before it calls the callback. -/
def TimerNode.rewind (n : TimerNode C) : TimerNode C := { n with remainTime := n.interval }

/-- What `TimerSourceDispatch` does when the callback has returned. -/
def TimerNode.finishOnce (n : TimerNode C) : TimerNode C :=
  if n.type = .once then { n with finish := true, status := .finish } else n

/-! ## The calls -/

def timerNodeUpdate (now : UInt32) (type : TimerType) (ms : UInt32) (n : TimerNode C) : TimerNode C :=
  { n with
    delete := false, finish := false, type := type, interval := ms, remainTime := ms, lastTime := now,
    status := .running }

def timerNodeNew (now : UInt32) (id : ℕ) (type : TimerType) (cb : Option C) (ms : UInt32) : TimerNode C :=
  timerNodeUpdate now type ms ⟨false, false, id, 0, 0, 0, .once, cb, .invalid⟩

/-- `EventSourceTimerAdd`; `memory` says whether there is memory for the node. -/
def eventSourceTimerAdd (now : UInt32) (memory : Bool) (type : TimerType) (cb : Option C) (ms : UInt32)
    (src : EventSourceTimer C) : Except IotcRet ℕ × EventSourceTimer C :=
  if eventTimerMaxNum ≤ src.cnt then (.error .fwkErrSourceTimerMax, src)
  else
    let id := src.idBase + 1
    if memory then
      (.ok id, { src with idBase := id, addList := src.addList ++ [timerNodeNew now id type cb ms] })
    else (.error .fwkErrSourceTimerCreate, { src with idBase := id })

/-- What `EventSourceTimerRemove` does to a running timer. -/
def TimerNode.remove (n : TimerNode C) : TimerNode C := { n with delete := true, status := .invalid }

def eventSourceTimerRemove (id : ℕ) (src : EventSourceTimer C) : EventSourceTimer C :=
  if id = 0 then src
  else
    match src.addList.find? fun n => n.id = id with
    | some _ => { src with addList := src.addList.eraseP fun n => n.id = id }
    | none =>
      match src.timerList.find? fun n => n.id = id with
      | some n => { src with timerList := replaceFirst (fun n => n.id = id) n.remove src.timerList }
      | none => src

def eventSourceTimerUpdate (now : UInt32) (id : ℕ) (type : TimerType) (ms : UInt32) (src : EventSourceTimer C) :
    EventSourceTimer C :=
  if id = 0 then src
  else
    match src.addList.find? fun n => n.id = id with
    | some n =>
      { src with addList := replaceFirst (fun n => n.id = id) (timerNodeUpdate now type ms n) src.addList }
    | none =>
      match src.timerList.find? fun n => n.id = id with
      | some n =>
        { src with timerList := replaceFirst (fun n => n.id = id) (timerNodeUpdate now type ms n) src.timerList }
      | none => src

/-! ## The events -/

inductive Call (C : Type)
  | add (type : TimerType) (cb : Option C) (ms : UInt32) (memory : Bool)
  | update (id : ℕ) (type : TimerType) (ms : UInt32)
  | remove (id : ℕ)

/-- `wait` is the time that has passed when the clock is read. -/
inductive Event (C : Type)
  | call (c : Call C) (wait : ℕ)
  | prepare
  | check (wait : ℕ)
  | visit
  | back

/-- Between two rounds, before the check of a round, in the loop of its dispatch, in a callback. -/
inductive Phase
  | between
  | prepared
  | visiting
  | calling
  deriving DecidableEq

/-- `pos` is the pointer of the loop of the dispatch, `now` the time that does not wrap. -/
structure Timers (C : Type) where
  src : EventSourceTimer C
  phase : Phase
  pos : ℕ
  now : ℕ

/-- `IotcGetSysTimeMs`. -/
def reading (now : ℕ) : UInt32 := UInt32.ofNat now

def Call.apply (now : UInt32) (src : EventSourceTimer C) : Call C → EventSourceTimer C
  | .add type cb ms memory => (eventSourceTimerAdd now memory type cb ms src).2
  | .update id type ms => eventSourceTimerUpdate now id type ms src
  | .remove id => eventSourceTimerRemove id src

/-- What the loop of the dispatch finds at its pointer. -/
inductive Found (C : Type)
  | ended
  | skip
  | drop (n : TimerNode C)
  | fire (n : TimerNode C)

def Timers.found (s : Timers C) : Found C :=
  match s.src.timerList[s.pos]? with
  | none => .ended
  | some n => if n.remainTime ≠ 0 ∨ n.runnable = false then .skip else if n.cb = none then .drop n else .fire n

/-- `f` at the node at the pointer of the loop. -/
def Timers.writeAt (s : Timers C) (f : TimerNode C → TimerNode C) : EventSourceTimer C :=
  { s.src with timerList := s.src.timerList.modify s.pos f }

def Timers.enabled (s : Timers C) : Event C → Bool
  | .call _ _ => s.phase ≠ .visiting
  | .prepare => s.phase = .between
  | .check _ => s.phase = .prepared
  | .visit => s.phase = .visiting
  | .back => s.phase = .calling

def Timers.act (s : Timers C) : Event C → Timers C
  | .call c wait => { s with src := c.apply (reading (s.now + wait)) s.src, now := s.now + wait }
  | .prepare => { s with src := (timerSourcePrepare s.src).1, phase := .prepared }
  | .check wait =>
    let checked := timerSourceCheck (reading (s.now + wait)) s.src
    ⟨checked.1, if checked.2 then .visiting else .between, 0, s.now + wait⟩
  | .visit =>
    match s.found with
    | .ended => { s with phase := .between }
    | .skip => { s with pos := s.pos + 1 }
    | .drop _ => { s with src := s.writeAt TimerNode.markDelete, pos := s.pos + 1 }
    | .fire _ => { s with src := s.writeAt TimerNode.rewind, phase := .calling }
  | .back => { s with src := s.writeAt TimerNode.finishOnce, phase := .visiting, pos := s.pos + 1 }

/-! ## Ids

No two nodes have the same id, so every call and every write of the loop works on the nodes of one id. -/

theorem add_cases (now : UInt32) (memory : Bool) (type : TimerType) (cb : Option C) (ms : UInt32)
    (src : EventSourceTimer C) :
    eventSourceTimerAdd now memory type cb ms src = (.error .fwkErrSourceTimerMax, src) ∨
    eventSourceTimerAdd now memory type cb ms src =
      (.error .fwkErrSourceTimerCreate, { src with idBase := src.idBase + 1 }) ∨
    eventSourceTimerAdd now memory type cb ms src =
      (.ok (src.idBase + 1), { src with
        idBase := src.idBase + 1, addList := src.addList ++ [timerNodeNew now (src.idBase + 1) type cb ms] }) := by
  unfold eventSourceTimerAdd
  split_ifs
  · exact .inl rfl
  · exact .inr (.inr rfl)
  · exact .inr (.inl rfl)

end Source

end IotConnect.Timer
