import IotConnect.Foundations.Trace
import Mathlib.Data.List.Nodup
import Mathlib.Data.List.Perm.Basic
import Mathlib.Data.List.TakeWhile

/-! # The event source of file descriptors (`event_source_fd.c`)

The watch list of the source, what a poll latches in it and what a dispatch takes out of it. The bits of a
node's `bitMap` are `suspend` and `event`; a node keeps the address it was allocated at. A dispatch works on a
copy of the node it selects, and the callbacks it invokes may call back into the source. The counters of the
source agree with its list after every run (`fdSource_accounted`). -/
namespace IotConnect.Fd
open Trace
set_option autoImplicit false

def eventSourceFdMaxWatchSize : ℕ := 16

inductive FdEventPriority
  | min
  | mid
  | max
deriving DecidableEq

def FdEventPriority.toNat : FdEventPriority → ℕ
  | min => 0
  | mid => 1
  | max => 2

inductive WatchEvent
  | read
  | write
  | except
deriving DecidableEq

/-- The callbacks of a watched descriptor: whether each of them is there. -/
structure FdWatchParam where
  fd : Int
  prio : FdEventPriority
  recvEvent : Bool
  sendEvent : Bool
  exceEvent : Bool
deriving DecidableEq

def FdWatchParam.callback (watch : FdWatchParam) : WatchEvent → Bool
  | .read => watch.recvEvent
  | .write => watch.sendEvent
  | .except => watch.exceEvent

@[ext] structure WatchNode where
  addr : ℕ
  suspend : Bool
  event : WatchEvent → Bool
  curPrio : ℕ
  watch : FdWatchParam

/-- `next` is the address the next allocation returns. -/
structure EventSourceFd where
  eventCnt : ℕ
  cnt : ℕ
  watchList : List WatchNode
  next : ℕ

def eventSourceFdNew : EventSourceFd := ⟨0, 0, [], 0⟩

/-! ## Events -/

def WatchNode.set (node : WatchNode) (event : WatchEvent) (b : Bool) : WatchNode :=
  { node with event := Function.update node.event event b }

def fdSourceEventSet (eventCnt : ℕ) (node : WatchNode) (event : WatchEvent) : ℕ × WatchNode :=
  if node.event event then (eventCnt, node) else (eventCnt + 1, node.set event true)

def fdSourceEventUnset (event : WatchEvent) (r : ℕ × WatchNode) : ℕ × WatchNode :=
  if r.2.event event then (r.1 - 1, r.2.set event false) else r

/-- The three calls of `FdSourceEventUnset` that always come together. -/
def unsetEvents (eventCnt : ℕ) (node : WatchNode) : ℕ × WatchNode :=
  fdSourceEventUnset .except (fdSourceEventUnset .write (fdSourceEventUnset .read (eventCnt, node)))

/-- A poll is asked for the event. -/
def WatchNode.asked (node : WatchNode) (event : WatchEvent) : Bool :=
  !node.suspend && (node.watch.callback event && !node.event event)

def fdSourcePrepareFdSet (s : EventSourceFd) (event : WatchEvent) : List Int :=
  (s.watchList.filter (·.asked event)).map (·.watch.fd)

def latchEvent (set : WatchEvent → List Int) (event : WatchEvent) (r : ℕ × WatchNode) : ℕ × WatchNode :=
  if r.2.watch.callback event && !r.2.event event && (set event).contains r.2.watch.fd then
    fdSourceEventSet r.1 r.2 event
  else r

/-- The body of the loop of `FdSourceGetFdSetEvent`. -/
def latchEvents (set : WatchEvent → List Int) (eventCnt : ℕ) (node : WatchNode) : ℕ × WatchNode :=
  if node.suspend then (eventCnt, node)
  else latchEvent set .except (latchEvent set .write (latchEvent set .read (eventCnt, node)))

def fdSourceGetFdSetEvent (set : WatchEvent → List Int) : ℕ → List WatchNode → ℕ × List WatchNode
  | eventCnt, [] => (eventCnt, [])
  | eventCnt, node :: rest =>
    let r := latchEvents set eventCnt node
    let rs := fdSourceGetFdSetEvent set r.1 rest
    (rs.1, r.2 :: rs.2)

/-- The function given to `EventSourceFdNew`: its return value, and the sets it leaves of those it is asked. -/
abbrev EventSourceFdPoll := (WatchEvent → List Int) → Int × (WatchEvent → List Int)

def fdSourcePoll (s : EventSourceFd) (poll : EventSourceFdPoll) : EventSourceFd :=
  let r := poll (fdSourcePrepareFdSet s)
  if r.1 ≤ 0 then s
  else
    let latched := fdSourceGetFdSetEvent r.2 s.eventCnt s.watchList
    { s with eventCnt := latched.1, watchList := latched.2 }

def fdSourceCheck (s : EventSourceFd) : Bool := 0 < s.eventCnt

/-! ## Watching -/

/-- `IotcMalloc` is asked once; `malloc` is whether it succeeds. -/
def eventSourceFdWatch (s : EventSourceFd) (watch : FdWatchParam) (malloc : Bool) : Bool × EventSourceFd :=
  if eventSourceFdMaxWatchSize ≤ s.cnt then (false, s)
  else if malloc = false then (false, s)
  else
    let newNode : WatchNode := ⟨s.next, false, fun _ => false, watch.prio.toNat, watch⟩
    let s := { s with cnt := s.cnt + 1, next := s.next + 1 }
    match s.watchList.getLast? with
    | none => (true, { s with watchList := [newNode] })
    | some tail =>
      if watch.prio.toNat ≤ tail.watch.prio.toNat then (true, { s with watchList := s.watchList ++ [newNode] })
      else
        let higher := fun node : WatchNode => decide (watch.prio.toNat < node.watch.prio.toNat)
        match s.watchList.dropWhile higher with
        | [] => (false, s)
        | item :: rest => (true, { s with watchList := s.watchList.takeWhile higher ++ newNode :: item :: rest })

/-- The first node that meets `p`, with what comes before and behind it. -/
def findNode (p : WatchNode → Bool) (l : List WatchNode) : Option (List WatchNode × WatchNode × List WatchNode) :=
  match l.dropWhile (fun node => !p node) with
  | [] => none
  | node :: post => some (l.takeWhile (fun node => !p node), node, post)

def findFd (s : EventSourceFd) (fd : Int) : Option (List WatchNode × WatchNode × List WatchNode) :=
  if fd < 0 then none else findNode (fun node => node.watch.fd == fd) s.watchList

def eventSourceFdSuspend (s : EventSourceFd) (fd : Int) : Bool × EventSourceFd :=
  match findFd s fd with
  | none => (false, s)
  | some (pre, node, post) =>
    let r := unsetEvents s.eventCnt { node with suspend := true }
    (true, { s with eventCnt := r.1, watchList := pre ++ r.2 :: post })

def eventSourceFdResume (s : EventSourceFd) (fd : Int) : Bool × EventSourceFd :=
  match findFd s fd with
  | none => (false, s)
  | some (pre, node, post) => (true, { s with watchList := pre ++ { node with suspend := false } :: post })

def eventSourceFdRemove (s : EventSourceFd) (fd : Int) : EventSourceFd :=
  match findFd s fd with
  | none => s
  | some (pre, node, post) =>
    { s with eventCnt := (unsetEvents s.eventCnt node).1, cnt := s.cnt - 1, watchList := pre ++ post }

inductive Call
  | watch (watch : FdWatchParam) (malloc : Bool)
  | suspend (fd : Int)
  | resume (fd : Int)
  | remove (fd : Int)

def call (s : EventSourceFd) : Call → EventSourceFd
  | .watch watch malloc => (eventSourceFdWatch s watch malloc).2
  | .suspend fd => (eventSourceFdSuspend s fd).2
  | .resume fd => (eventSourceFdResume s fd).2
  | .remove fd => eventSourceFdRemove s fd

/-! ## Dispatching -/

/-- The events of a node, in the order in which they are processed. -/
def watchEvents : List WatchEvent := [.read, .write, .except]

def WatchNode.pending (node : WatchNode) : Bool := watchEvents.any node.event

/-- A node with an event ages when it is looked at. -/
def WatchNode.aged (node : WatchNode) : WatchNode :=
  if node.pending then { node with curPrio := node.curPrio + 1 } else node

/-- The loop of `FdSourceDispatch`: `maxItem`, whose priority has been raised already when it is compared. -/
def selectLoop : Option WatchNode → List WatchNode → Option WatchNode
  | maxItem, [] => maxItem
  | maxItem, node :: rest =>
    if node.pending ∧ ∀ maxNode ∈ maxItem, node.curPrio > maxNode.curPrio then selectLoop (some node.aged) rest
    else selectLoop maxItem rest

/-- `FdSourceDispatch` up to the callbacks: the copy of the selected node, and the source with it reset. -/
def fdSourceSelect (s : EventSourceFd) : Option (WatchNode × EventSourceFd) :=
  (selectLoop none s.watchList).bind fun maxNode =>
    (findNode (fun node => node.addr == maxNode.addr) (s.watchList.map WatchNode.aged)).map fun (pre, node, post) =>
      let r := unsetEvents s.eventCnt { node with curPrio := node.watch.prio.toNat }
      (maxNode, { s with eventCnt := r.1, watchList := pre ++ r.2 :: post })

/-- What a callback does: the calls it makes, and what it returns. -/
structure Outcome where
  calls : List Call
  notDel : Bool

/-- The callbacks `FdEventProcess` invokes. It asks for `recvEvent` before each of the three. -/
def fdEventProcess (node : WatchNode) : List WatchEvent :=
  watchEvents.filter fun event => node.event event && node.watch.recvEvent

/-- The calls from the first callback on, with the removal at the end. -/
def script (node : WatchNode) (outcome : WatchEvent → Outcome) : List Call :=
  (fdEventProcess node).flatMap (fun event => (outcome event).calls) ++
    if (fdEventProcess node).all (fun event => (outcome event).notDel) then [] else [.remove node.watch.fd]

def fdSourceDispatch (s : EventSourceFd) (outcome : WatchEvent → Outcome) : EventSourceFd :=
  match fdSourceSelect s with
  | none => s
  | some (tmpNode, s) => run call s (script tmpNode outcome)

inductive Event
  | call (c : Call)
  | poll (poll : EventSourceFdPoll)
  | dispatch (outcome : WatchEvent → Outcome)

def step (s : EventSourceFd) : Event → EventSourceFd
  | .call c => Fd.call s c
  | .poll poll => fdSourcePoll s poll
  | .dispatch outcome => fdSourceDispatch s outcome

/-! ## Pending events -/

/-- An event of a node that is latched, by the node's address. -/
def WatchNode.pendings (node : WatchNode) : List (ℕ × WatchEvent) :=
  (watchEvents.filter node.event).map (node.addr, ·)

def pendings (l : List WatchNode) : List (ℕ × WatchEvent) := l.flatMap WatchNode.pendings

/-- What a poll that leaves `set` reports of a node. -/
def WatchNode.reports (set : WatchEvent → List Int) (node : WatchNode) : List (ℕ × WatchEvent) :=
  (watchEvents.filter fun event => node.asked event && (set event).contains node.watch.fd).map (node.addr, ·)

def WatchNode.cleared (node : WatchNode) : WatchNode := { node with event := fun _ => false }

@[simp] theorem pendings_cons (node : WatchNode) (l : List WatchNode) :
    pendings (node :: l) = node.pendings ++ pendings l := rfl

@[simp] theorem pendings_append (l l' : List WatchNode) : pendings (l ++ l') = pendings l ++ pendings l' := by
  simp [pendings]

@[simp] theorem pendings_cleared (node : WatchNode) : node.cleared.pendings = [] := by
  simp [WatchNode.cleared, WatchNode.pendings, watchEvents]

theorem pending_iff (node : WatchNode) : node.pending = true ↔ ∃ event, node.event event = true := by
  unfold WatchNode.pending watchEvents
  rw [List.any_eq_true]
  constructor
  · rintro ⟨event, -, h⟩
    exact ⟨event, h⟩
  · rintro ⟨event, h⟩
    exact ⟨event, by cases event <;> simp, h⟩

theorem pendings_eq_nil_iff (node : WatchNode) : node.pendings = [] ↔ ∀ event, node.event event = false := by
  unfold WatchNode.pendings watchEvents
  rw [List.map_eq_nil_iff, List.filter_eq_nil_iff]
  refine ⟨fun h event => ?_, fun h event _ => by simp [h event]⟩
  exact Bool.eq_false_iff.mpr (h event (by cases event <;> simp))

theorem filter_watchEvents_length (f : WatchEvent → Bool) :
    (watchEvents.filter f).length = (f .read).toNat + (f .write).toNat + (f .except).toNat := by
  unfold watchEvents
  cases hr : f .read <;> cases hw : f .write <;> cases he : f .except <;> simp [hr, hw, he]

theorem set_event (node : WatchNode) (event event' : WatchEvent) (b : Bool) :
    (node.set event b).event event' = if event' = event then b else node.event event' := by
  simp [WatchNode.set, Function.update_apply]

theorem fdSourceEventUnset_eq (event : WatchEvent) (r : ℕ × WatchNode) :
    fdSourceEventUnset event r = (r.1 - (r.2.event event).toNat, r.2.set event false) := by
  unfold fdSourceEventUnset
  cases h : r.2.event event with
  | true => rfl
  | false =>
    have hsame : r.2.set event false = r.2 := by
      rw [WatchNode.set, ← h, Function.update_eq_self]
    rw [hsame]
    rfl

theorem unsetEvents_eq (eventCnt : ℕ) (node : WatchNode) :
    unsetEvents eventCnt node = (eventCnt - node.pendings.length, node.cleared) := by
  unfold unsetEvents
  rw [fdSourceEventUnset_eq, fdSourceEventUnset_eq, fdSourceEventUnset_eq, WatchNode.pendings, List.length_map,
    filter_watchEvents_length]
  refine Prod.ext ?_ ?_
  · simp [set_event, Nat.sub_sub, Nat.add_assoc]
  · refine WatchNode.ext rfl rfl (funext fun event => ?_) rfl rfl
    cases event <;> rfl

/-- The node after a poll that leaves `set`. -/
def WatchNode.latched (set : WatchEvent → List Int) (node : WatchNode) : WatchNode :=
  { node with event := fun event => node.event event || (node.asked event && (set event).contains node.watch.fd) }

theorem latchEvent_eq (set : WatchEvent → List Int) (event : WatchEvent) (r : ℕ × WatchNode)
    (hsuspend : r.2.suspend = false) : latchEvent set event r =
      (r.1 + (r.2.asked event && (set event).contains r.2.watch.fd).toNat,
        r.2.set event (r.2.event event || (r.2.asked event && (set event).contains r.2.watch.fd))) := by
  have hsame : ∀ b, r.2.event event = b → r.2.set event b = r.2 := fun b h => by
    rw [WatchNode.set, ← h, Function.update_eq_self]
  unfold latchEvent fdSourceEventSet WatchNode.asked
  rw [hsuspend]
  cases h : r.2.event event <;> cases r.2.watch.callback event <;>
    cases (set event).contains r.2.watch.fd <;> simp [h, hsame]

theorem latchEvents_eq (set : WatchEvent → List Int) (eventCnt : ℕ) (node : WatchNode) :
    latchEvents set eventCnt node = (eventCnt + (node.reports set).length, node.latched set) := by
  unfold latchEvents
  cases hs : node.suspend with
  | true =>
    have hnone : ∀ event, node.asked event = false := fun event => by simp [WatchNode.asked, hs]
    simp [WatchNode.reports, WatchNode.latched, hnone]
  | false =>
    rw [if_neg (by simp), latchEvent_eq _ .read _ hs, latchEvent_eq _ .write _ hs, latchEvent_eq _ .except _ hs,
      WatchNode.reports, List.length_map, filter_watchEvents_length]
    refine Prod.ext ?_ ?_
    · simp [WatchNode.asked, WatchNode.set, Nat.add_assoc]
    · refine WatchNode.ext rfl rfl (funext fun event => ?_) rfl rfl
      cases event <;> rfl

theorem latched_pendings (set : WatchEvent → List Int) (node : WatchNode) :
    (node.latched set).pendings.Perm (node.pendings ++ node.reports set) := by
  have hsplit : ∀ (l : List WatchEvent) (f g : WatchEvent → Bool), (∀ event, g event = true → f event = false) →
      (l.filter fun event => f event || g event).Perm (l.filter f ++ l.filter g) := by
    intro l f g hfg
    have hperm := List.filter_append_perm f (l.filter fun event => f event || g event)
    rw [List.filter_filter, List.filter_filter] at hperm
    refine hperm.symm.trans (List.Perm.of_eq ?_)
    congr 1
    · exact List.filter_congr fun event _ => by cases f event <;> simp
    · refine List.filter_congr fun event _ => ?_
      cases hf : f event with
      | false => simp
      | true =>
        cases hg : g event with
        | false => simp
        | true => simp [hfg event hg] at hf
  rw [WatchNode.pendings, WatchNode.pendings, WatchNode.reports, ← List.map_append]
  refine List.Perm.map _ (hsplit _ _ _ fun event h => ?_)
  simp only [WatchNode.asked, Bool.and_eq_true, Bool.not_eq_true'] at h
  exact h.1.2.2

/-! ## What the operations do -/

section Operations
variable {s s' : EventSourceFd} {l pre post : List WatchNode} {node tmpNode : WatchNode}

theorem findNode_eq_some {p : WatchNode → Bool} (h : findNode p l = some (pre, node, post)) :
    l = pre ++ node :: post ∧ p node = true ∧ ∀ a ∈ pre, p a = false := by
  unfold findNode at h
  have hsplit := List.takeWhile_append_dropWhile (p := fun node => !p node) (l := l)
  cases hdrop : l.dropWhile (fun node => !p node) with
  | nil => simp [hdrop] at h
  | cons a rest =>
    rw [hdrop] at h hsplit
    cases h
    have hhead := List.head?_dropWhile_not (fun node => !p node) l
    rw [hdrop] at hhead
    exact ⟨hsplit.symm, by simpa using hhead, fun a ha => by simpa using List.mem_takeWhile_imp ha⟩

theorem findFd_eq_some {fd : Int} (h : findFd s fd = some (pre, node, post)) :
    s.watchList = pre ++ node :: post ∧ node.watch.fd = fd := by
  unfold findFd at h
  split at h
  · cases h
  · obtain ⟨hl, hp, -⟩ := findNode_eq_some h
    exact ⟨hl, by simpa using hp⟩

theorem getFdSetEvent_eq (set : WatchEvent → List Int) (l : List WatchNode) (eventCnt : ℕ) :
    fdSourceGetFdSetEvent set eventCnt l =
      (eventCnt + (l.flatMap (WatchNode.reports set)).length, l.map (WatchNode.latched set)) := by
  induction l generalizing eventCnt with
  | nil => rfl
  | cons node rest ih =>
    rw [fdSourceGetFdSetEvent, latchEvents_eq, ih]
    simp [Nat.add_assoc]

/-- The sets that count: none if the poll has no event to return. -/
def pollSet (s : EventSourceFd) (poll : EventSourceFdPoll) (event : WatchEvent) : List Int :=
  if (poll (fdSourcePrepareFdSet s)).1 ≤ 0 then [] else (poll (fdSourcePrepareFdSet s)).2 event

def reported (s : EventSourceFd) (poll : EventSourceFdPoll) : List (ℕ × WatchEvent) :=
  s.watchList.flatMap (WatchNode.reports (pollSet s poll))

theorem fdSourcePoll_eq (s : EventSourceFd) (poll : EventSourceFdPoll) : fdSourcePoll s poll =
    { s with
      eventCnt := s.eventCnt + (reported s poll).length
      watchList := s.watchList.map (WatchNode.latched (pollSet s poll)) } := by
  unfold fdSourcePoll reported
  dsimp only
  split
  · rename_i h
    have hset : pollSet s poll = fun _ => [] := funext fun event => if_pos h
    have hreports : WatchNode.reports (fun _ => []) = fun _ => [] := funext fun node => by simp [WatchNode.reports]
    have hlatched : WatchNode.latched (fun _ => []) = id := funext fun node => by simp [WatchNode.latched]
    rw [hset, hreports, hlatched]
    simp
  · rename_i h
    have hset : pollSet s poll = (poll (fdSourcePrepareFdSet s)).2 := funext fun event => if_neg h
    rw [hset, getFdSetEvent_eq]

theorem watch_cases (s : EventSourceFd) (watch : FdWatchParam) (malloc : Bool)
    (hsorted : s.watchList.Pairwise fun a b => b.watch.prio.toNat ≤ a.watch.prio.toNat) :
    (eventSourceFdWatch s watch malloc).2 = s ∨ s.cnt < eventSourceFdMaxWatchSize ∧ ∃ pre post,
      s.watchList = pre ++ post ∧ (∀ a ∈ pre, watch.prio.toNat ≤ a.watch.prio.toNat) ∧
      (∀ b ∈ post, b.watch.prio.toNat ≤ watch.prio.toNat) ∧
      (eventSourceFdWatch s watch malloc).2 =
        { s with
          cnt := s.cnt + 1
          next := s.next + 1
          watchList := pre ++ ⟨s.next, false, fun _ => false, watch.prio.toNat, watch⟩ :: post } := by
  unfold eventSourceFdWatch
  by_cases hfull : eventSourceFdMaxWatchSize ≤ s.cnt
  · rw [if_pos hfull]
    exact .inl rfl
  rw [if_neg hfull]
  by_cases hmalloc : malloc = false
  · rw [if_pos hmalloc]
    exact .inl rfl
  rw [if_neg hmalloc]
  refine .inr ⟨Nat.lt_of_not_le hfull, ?_⟩
  dsimp only
  cases hlast : s.watchList.getLast? with
  | none =>
    rw [List.getLast?_eq_none_iff] at hlast
    exact ⟨[], [], hlast, by simp, by simp, rfl⟩
  | some tail =>
    obtain ⟨init, hinit⟩ := List.getLast?_eq_some_iff.mp hlast
    dsimp only
    split
    · rename_i htail
      refine ⟨s.watchList, [], by simp, fun a ha => ?_, by simp, rfl⟩
      rw [hinit] at ha hsorted
      rcases List.mem_append.mp ha with ha | ha
      · exact Nat.le_trans htail ((List.pairwise_append.mp hsorted).2.2 a ha tail (by simp))
      · rw [List.mem_singleton.mp ha]
        exact htail
    · rename_i htail
      -- the last node is one the loop stops at
      have hsplit := List.takeWhile_append_dropWhile
        (p := fun node : WatchNode => decide (watch.prio.toNat < node.watch.prio.toNat)) (l := s.watchList)
      have hpre : ∀ a ∈ s.watchList.takeWhile (fun node => decide (watch.prio.toNat < node.watch.prio.toNat)),
          watch.prio.toNat ≤ a.watch.prio.toNat := fun a ha => by
        have := List.mem_takeWhile_imp ha
        simp only [decide_eq_true_eq] at this
        omega
      cases hdrop : s.watchList.dropWhile (fun node => decide (watch.prio.toNat < node.watch.prio.toNat)) with
      | nil =>
        rw [hdrop, List.append_nil] at hsplit
        exact absurd (hpre tail (by rw [hsplit, hinit]; simp)) htail
      | cons item rest =>
        rw [hdrop] at hsplit
        have hitem : item.watch.prio.toNat ≤ watch.prio.toNat := by
          have hhead := List.head?_dropWhile_not (fun node : WatchNode => decide (watch.prio.toNat < node.watch.prio.toNat))
            s.watchList
          rw [hdrop] at hhead
          simpa using hhead
        refine ⟨_, item :: rest, hsplit.symm, hpre, fun b hb => ?_, rfl⟩
        rw [← hsplit] at hsorted
        rcases List.mem_cons.mp hb with rfl | hb
        · exact hitem
        · exact Nat.le_trans ((List.pairwise_cons.mp (List.pairwise_append.mp hsorted).2.1).1 b hb) hitem

/-- The pending events a call discards. -/
def dropped (s : EventSourceFd) : Call → List (ℕ × WatchEvent)
  | .suspend fd | .remove fd => ((findFd s fd).map fun r => r.2.1.pendings).getD []
  | .watch _ _ | .resume _ => []

/-- A call changes nothing, inserts a node, changes the bits of one or takes one out. -/
theorem call_cases (s : EventSourceFd) (c : Call)
    (hsorted : s.watchList.Pairwise fun a b => b.watch.prio.toNat ≤ a.watch.prio.toNat) :
    (call s c = s ∧ dropped s c = []) ∨
    (∃ watch pre post, s.cnt < eventSourceFdMaxWatchSize ∧ s.watchList = pre ++ post ∧
      (∀ a ∈ pre, watch.prio.toNat ≤ a.watch.prio.toNat) ∧ (∀ b ∈ post, b.watch.prio.toNat ≤ watch.prio.toNat) ∧
      dropped s c = [] ∧ call s c = { s with
        cnt := s.cnt + 1
        next := s.next + 1
        watchList := pre ++ ⟨s.next, false, fun _ => false, watch.prio.toNat, watch⟩ :: post }) ∨
    (∃ pre node node' post, s.watchList = pre ++ node :: post ∧ node'.addr = node.addr ∧ node'.watch = node.watch ∧
      node'.curPrio = node.curPrio ∧ (node'.suspend = true → ∀ event, node'.event event = false) ∧
      node.pendings = dropped s c ++ node'.pendings ∧
      call s c = { s with eventCnt := s.eventCnt - (dropped s c).length, watchList := pre ++ node' :: post }) ∨
    (∃ pre node post, s.watchList = pre ++ node :: post ∧ dropped s c = node.pendings ∧
      call s c = { s with
        eventCnt := s.eventCnt - node.pendings.length
        cnt := s.cnt - 1
        watchList := pre ++ post }) := by
  cases c with
  | watch watch malloc =>
    rcases watch_cases s watch malloc hsorted with hsame | ⟨hroom, pre, post, hl, hpre, hpost, heq⟩
    · exact .inl ⟨hsame, rfl⟩
    · exact .inr (.inl ⟨watch, pre, post, hroom, hl, hpre, hpost, rfl, heq⟩)
  | suspend fd =>
    dsimp only [call, dropped, eventSourceFdSuspend]
    cases hfind : findFd s fd with
    | none => exact .inl ⟨rfl, rfl⟩
    | some r =>
      refine .inr (.inr (.inl ⟨r.1, r.2.1, { r.2.1 with suspend := true }.cleared, r.2.2, (findFd_eq_some hfind).1, rfl,
        rfl, rfl, fun _ _ => rfl, ?_, ?_⟩))
      · rw [pendings_cleared, List.append_nil]
        rfl
      · dsimp only
        rw [unsetEvents_eq]
        rfl
  | resume fd =>
    dsimp only [call, dropped, eventSourceFdResume]
    cases hfind : findFd s fd with
    | none => exact .inl ⟨rfl, rfl⟩
    | some r => exact .inr (.inr (.inl ⟨r.1, r.2.1, { r.2.1 with suspend := false }, r.2.2, (findFd_eq_some hfind).1, rfl,
        rfl, rfl, fun hs => (by cases hs), rfl, rfl⟩))
  | remove fd =>
    dsimp only [call, dropped, eventSourceFdRemove]
    cases hfind : findFd s fd with
    | none => exact .inl ⟨rfl, rfl⟩
    | some r =>
      refine .inr (.inr (.inr ⟨r.1, r.2.1, r.2.2, (findFd_eq_some hfind).1, rfl, ?_⟩))
      dsimp only
      rw [unsetEvents_eq]

theorem aged_addr (node : WatchNode) : node.aged.addr = node.addr := by
  unfold WatchNode.aged
  split <;> rfl

theorem aged_watch (node : WatchNode) : node.aged.watch = node.watch := by
  unfold WatchNode.aged
  split <;> rfl

theorem aged_event (node : WatchNode) : node.aged.event = node.event := by
  unfold WatchNode.aged
  split <;> rfl

theorem selectLoop_mem {maxItem : Option WatchNode} (h : selectLoop maxItem l = some node) :
    maxItem = some node ∨ ∃ n ∈ l, n.pending = true ∧ node = n.aged := by
  induction l generalizing maxItem with
  | nil => exact .inl h
  | cons n rest ih =>
    unfold selectLoop at h
    split at h
    · rename_i hn
      rcases ih h with hmax | ⟨m, hm, hp⟩
      · cases hmax
        exact .inr ⟨n, List.mem_cons_self, hn.1, rfl⟩
      · exact .inr ⟨m, List.mem_cons_of_mem n hm, hp⟩
    · rcases ih h with hmax | ⟨m, hm, hp⟩
      · exact .inl hmax
      · exact .inr ⟨m, List.mem_cons_of_mem n hm, hp⟩

/-- The source in which the callbacks of the selected node start. -/
theorem select_cases (hnodup : (s.watchList.map WatchNode.addr).Nodup) (h : fdSourceSelect s = some (tmpNode, s')) :
    ∃ pre node post, s.watchList = pre ++ node :: post ∧ node.pending = true ∧ tmpNode = node.aged ∧
      s' = { s with
        eventCnt := s.eventCnt - node.pendings.length
        watchList := pre.map WatchNode.aged ++ { node.cleared with curPrio := node.watch.prio.toNat } ::
          post.map WatchNode.aged } := by
  obtain ⟨maxNode, hmax, h⟩ := Option.bind_eq_some_iff.mp h
  obtain ⟨⟨pre, found, post⟩, hfind, h⟩ := Option.map_eq_some_iff.mp h
  obtain ⟨hl, haddr, -⟩ := findNode_eq_some hfind
  obtain hnone | ⟨node, hmem, hpending, rfl⟩ := selectLoop_mem hmax
  · cases hnone
  obtain ⟨pre', rest, hlist, rfl, hrest⟩ := List.map_eq_append_iff.mp hl
  obtain ⟨node', post', rfl, rfl, rfl⟩ := List.map_eq_cons_iff.mp hrest
  -- the address of the selected node is that of no other
  have hsame : node' = node := by
    refine List.inj_on_of_nodup_map hnodup (by rw [hlist]; simp) hmem ?_
    rwa [beq_iff_eq, aged_addr, aged_addr] at haddr
  subst hsame
  have hreset : { node'.aged with curPrio := node'.aged.watch.prio.toNat } =
      { node' with curPrio := node'.watch.prio.toNat } := by
    unfold WatchNode.aged
    split <;> rfl
  dsimp only at h
  rw [hreset, unsetEvents_eq] at h
  cases h
  exact ⟨pre', node', post', hlist, hpending, rfl, rfl⟩

end Operations

/-! ## The counters -/

/-- The counters and the list of the source agree, and the list is in order. -/
structure Accounted (s : EventSourceFd) : Prop where
  eventCnt : s.eventCnt = (pendings s.watchList).length
  cnt : s.cnt = s.watchList.length
  size : s.cnt ≤ eventSourceFdMaxWatchSize
  sorted : s.watchList.Pairwise fun a b => b.watch.prio.toNat ≤ a.watch.prio.toNat
  suspended : ∀ node ∈ s.watchList, node.suspend = true → ∀ event, node.event event = false

/-- Besides, no two nodes have one address, and the next allocation has a new one. -/
structure Sound (s : EventSourceFd) : Prop extends Accounted s where
  addrs : (s.watchList.map WatchNode.addr).Nodup
  fresh : ∀ node ∈ s.watchList, node.addr < s.next

theorem Sound.new : Sound eventSourceFdNew where
  eventCnt := rfl
  cnt := rfl
  size := by decide
  sorted := .nil
  suspended := by simp [eventSourceFdNew]
  addrs := .nil
  fresh := by simp [eventSourceFdNew]

section Sound
variable {s : EventSourceFd}

/-- Every node is changed in place. -/
theorem Sound.map (h : Sound s) (f : WatchNode → WatchNode) (eventCnt : ℕ) (haddr : ∀ node, (f node).addr = node.addr)
    (hwatch : ∀ node, (f node).watch = node.watch)
    (hsuspend : ∀ node, (node.suspend = true → ∀ event, node.event event = false) →
      (f node).suspend = true → ∀ event, (f node).event event = false)
    (hcnt : eventCnt = (pendings (s.watchList.map f)).length) :
    Sound { s with eventCnt := eventCnt, watchList := s.watchList.map f } where
  eventCnt := hcnt
  cnt := by simpa using h.cnt
  size := h.size
  sorted := by
    rw [List.pairwise_map]
    simpa only [hwatch] using h.sorted
  suspended := by
    intro node hnode
    obtain ⟨n, hn, rfl⟩ := List.mem_map.mp hnode
    exact hsuspend n (h.suspended n hn)
  addrs := by
    have hcomp : WatchNode.addr ∘ f = WatchNode.addr := funext haddr
    rw [List.map_map, hcomp]
    exact h.addrs
  fresh := by
    intro node hnode
    obtain ⟨n, hn, rfl⟩ := List.mem_map.mp hnode
    rw [haddr]
    exact h.fresh n hn

variable {pre post : List WatchNode} {node : WatchNode}

/-- One node is changed in place. -/
theorem Sound.replace (h : Sound s) (hl : s.watchList = pre ++ node :: post) (node' : WatchNode) (eventCnt : ℕ)
    (haddr : node'.addr = node.addr) (hwatch : node'.watch = node.watch)
    (hsuspend : node'.suspend = true → ∀ event, node'.event event = false)
    (hcnt : eventCnt = (pendings (pre ++ node' :: post)).length) :
    Sound { s with eventCnt := eventCnt, watchList := pre ++ node' :: post } where
  eventCnt := hcnt
  cnt := by
    have := h.cnt
    rw [hl] at this
    simpa using this
  size := h.size
  sorted := by
    have := h.sorted
    rw [hl] at this
    simpa only [List.pairwise_append, List.pairwise_cons, List.mem_cons, forall_eq_or_imp, hwatch] using this
  suspended := by
    intro n hn
    rcases List.mem_append.mp hn with hn | hn
    · exact h.suspended n (by simp [hl, hn])
    rcases List.mem_cons.mp hn with rfl | hn
    · exact hsuspend
    · exact h.suspended n (by simp [hl, hn])
  addrs := by
    have := h.addrs
    rw [hl] at this
    simpa only [List.map_append, List.map_cons, haddr] using this
  fresh := by
    intro n hn
    rcases List.mem_append.mp hn with hn | hn
    · exact h.fresh n (by simp [hl, hn])
    rcases List.mem_cons.mp hn with rfl | hn
    · rw [haddr]
      exact h.fresh node (by simp [hl])
    · exact h.fresh n (by simp [hl, hn])

theorem Sound.remove (h : Sound s) (hl : s.watchList = pre ++ node :: post) :
    Sound { s with
      eventCnt := s.eventCnt - node.pendings.length
      cnt := s.cnt - 1
      watchList := pre ++ post } := by
  have hsub : (pre ++ post).Sublist s.watchList := by
    rw [hl]
    exact (List.Sublist.refl pre).append (List.sublist_cons_self node post)
  refine ⟨⟨?_, ?_, ?_, h.sorted.sublist hsub, fun n hn => h.suspended n (hsub.subset hn)⟩,
    h.addrs.sublist (hsub.map _), fun n hn => h.fresh n (hsub.subset hn)⟩
  · have := h.eventCnt
    rw [hl] at this
    simp only [pendings_append, pendings_cons, List.length_append] at this ⊢
    omega
  · have := h.cnt
    rw [hl] at this
    simp only [List.length_append, List.length_cons] at this ⊢
    omega
  · exact Nat.le_trans (Nat.sub_le _ _) h.size

theorem Sound.insert (h : Sound s) (hl : s.watchList = pre ++ post) (hroom : s.cnt < eventSourceFdMaxWatchSize)
    {watch : FdWatchParam} (hpre : ∀ a ∈ pre, watch.prio.toNat ≤ a.watch.prio.toNat)
    (hpost : ∀ b ∈ post, b.watch.prio.toNat ≤ watch.prio.toNat) :
    Sound { s with
      cnt := s.cnt + 1
      next := s.next + 1
      watchList := pre ++ ⟨s.next, false, fun _ => false, watch.prio.toNat, watch⟩ :: post } := by
  have hperm : (pre ++ ⟨s.next, false, fun _ => false, watch.prio.toNat, watch⟩ :: post).Perm
      (⟨s.next, false, fun _ => false, watch.prio.toNat, watch⟩ :: s.watchList) := by
    rw [hl]
    exact List.perm_middle
  have hold := h.fresh
  refine ⟨⟨?_, ?_, hroom, ?_, fun n hn => ?_⟩, ?_, fun n hn => ?_⟩
  · have := h.eventCnt
    rw [hl] at this
    simpa [WatchNode.pendings] using this
  · rw [hperm.length_eq, List.length_cons, h.cnt]
  · have := h.sorted
    rw [hl, List.pairwise_append] at this
    refine List.pairwise_append.mpr ⟨this.1, List.pairwise_cons.mpr ⟨hpost, this.2.1⟩, fun a ha b hb => ?_⟩
    rcases List.mem_cons.mp hb with rfl | hb
    · exact hpre a ha
    · exact this.2.2 a ha b hb
  · rcases List.mem_cons.mp (hperm.mem_iff.mp hn) with rfl | hn
    · exact fun hs => by cases hs
    · exact h.suspended n hn
  · rw [(hperm.map _).nodup_iff, List.map_cons, List.nodup_cons]
    refine ⟨fun hmem => ?_, h.addrs⟩
    obtain ⟨n, hn, haddr⟩ := List.mem_map.mp hmem
    exact absurd (hold n hn) (by rw [haddr]; exact Nat.lt_irrefl _)
  · rcases List.mem_cons.mp (hperm.mem_iff.mp hn) with rfl | hn
    · exact Nat.lt_succ_self _
    · exact Nat.lt_succ_of_lt (hold n hn)

theorem Sound.call (h : Sound s) (c : Call) : Sound (call s c) := by
  obtain ⟨heq, -⟩ | ⟨watch, pre, post, hroom, hl, hpre, hpost, -, heq⟩ |
    ⟨pre, node, node', post, hl, haddr, hwatch, -, hsuspend, hpend, heq⟩ | ⟨pre, node, post, hl, -, heq⟩ :=
    call_cases s c h.sorted
  · rw [heq]
    exact h
  · rw [heq]
    exact h.insert hl hroom hpre hpost
  · rw [heq]
    refine h.replace hl node' _ haddr hwatch hsuspend ?_
    have hcnt := h.eventCnt
    have hlen := congrArg List.length hpend
    rw [hl] at hcnt
    simp only [pendings_append, pendings_cons, List.length_append] at hcnt hlen ⊢
    omega
  · rw [heq]
    exact h.remove hl

theorem map_latched_pendings (set : WatchEvent → List Int) (l : List WatchNode) :
    (pendings (l.map (WatchNode.latched set))).Perm (pendings l ++ l.flatMap (WatchNode.reports set)) := by
  induction l with
  | nil => exact .nil
  | cons node rest ih =>
    simp only [List.map_cons, pendings_cons, List.flatMap_cons]
    refine ((latched_pendings set node).append ih).trans ?_
    rw [List.append_assoc, List.append_assoc]
    exact (List.perm_append_comm_assoc _ _ _).append_left _

theorem Sound.poll (h : Sound s) (poll : EventSourceFdPoll) : Sound (fdSourcePoll s poll) := by
  rw [fdSourcePoll_eq]
  refine h.map _ _ (fun _ => rfl) (fun _ => rfl) (fun node hnode hs event => ?_) ?_
  · have hasked : node.asked event = false := by
      have hs : node.suspend = true := hs
      simp [WatchNode.asked, hs]
    simp [WatchNode.latched, hasked, hnode hs event]
  · rw [(map_latched_pendings _ _).length_eq, List.length_append, ← h.eventCnt, reported]

theorem aged_pendings (node : WatchNode) : node.aged.pendings = node.pendings := by
  rw [WatchNode.pendings, WatchNode.pendings, aged_addr, aged_event]

theorem map_aged_pendings (l : List WatchNode) : pendings (l.map WatchNode.aged) = pendings l := by
  rw [pendings, pendings, List.flatMap_map]
  exact congrArg (l.flatMap ·) (funext aged_pendings)

theorem Sound.select {s' : EventSourceFd} {tmpNode : WatchNode} (h : Sound s)
    (hsel : fdSourceSelect s = some (tmpNode, s')) : Sound s' := by
  obtain ⟨pre, node, post, hl, -, -, rfl⟩ := select_cases h.addrs hsel
  have haged : Sound { s with watchList := s.watchList.map WatchNode.aged } := by
    refine h.map _ _ aged_addr aged_watch (fun n hn => ?_) (by rw [map_aged_pendings, h.eventCnt])
    rw [aged_event]
    unfold WatchNode.aged
    split <;> exact hn
  have hl' : s.watchList.map WatchNode.aged = pre.map WatchNode.aged ++ node.aged :: post.map WatchNode.aged := by
    rw [hl, List.map_append, List.map_cons]
  refine haged.replace hl' _ _ (aged_addr node).symm (aged_watch node).symm (fun _ _ => rfl) ?_
  have := h.eventCnt
  rw [hl] at this
  simp only [pendings_append, pendings_cons, map_aged_pendings, List.length_append] at this ⊢
  have hnil : ({ node.cleared with curPrio := node.watch.prio.toNat } : WatchNode).pendings = [] :=
    pendings_cleared { node with curPrio := node.watch.prio.toNat }
  rw [hnil, List.length_nil]
  omega

theorem Sound.step (h : Sound s) (e : Event) : Sound (step s e) := by
  cases e with
  | call c => exact h.call c
  | poll poll => exact h.poll poll
  | dispatch outcome =>
    show Sound (fdSourceDispatch s outcome)
    unfold fdSourceDispatch
    split
    · exact h
    · rename_i tmpNode s' hsel
      exact run_invariant (P := fun _ _ => True) (fun _ c _ hs => hs.call c) (along_of_forall (fun _ _ _ => trivial) _)
        (h.select hsel)

theorem Sound.run (h : Sound s) (es : List Event) : Sound (Trace.run Fd.step s es) :=
  run_invariant (P := fun _ _ => True) (fun _ e _ hs => hs.step e) (along_of_forall (fun _ _ _ => trivial) _) h

theorem pendings_pos_iff (l : List WatchNode) :
    0 < (pendings l).length ↔ ∃ node ∈ l, ∃ event, node.event event = true := by
  rw [List.length_pos_iff, pendings, ne_eq, List.flatMap_eq_nil_iff]
  simp only [pendings_eq_nil_iff, not_forall, Bool.not_eq_false, exists_prop]

end Sound

/-- **After every run of watches, suspensions, resumptions, removals, polls and dispatches, whose callbacks may
call back, the counters agree with the list, the list is in the order of the priorities, a suspended node has
no event and the check asks whether some event is pending.** -/
theorem fdSource_accounted (es : List Event) : Accounted (run step eventSourceFdNew es) ∧
    (fdSourceCheck (run step eventSourceFdNew es) = true ↔
      ∃ node ∈ (run step eventSourceFdNew es).watchList, ∃ event, node.event event = true) := by
  have h := (Sound.new.run es).toAccounted
  refine ⟨h, ?_⟩
  rw [fdSourceCheck, decide_eq_true_eq, h.eventCnt]
  exact pendings_pos_iff _

end IotConnect.Fd
