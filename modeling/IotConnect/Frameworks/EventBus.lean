import IotConnect.Common.Errcode
import IotConnect.Foundations.Trace

/-! # The event bus (`event_bus.c`)

Three kinds of subscription are kept in one list: to one event, to the events a function picks, and to all. One test
finds out for all three whether a subscription is there already. It compares with each node the members that
the node uses, and not the kind that is asked for: a subscription to event 0 passes for one to any or all events,
and a subscription of another listener with the same function passes for its own. Listeners are values of a type
`L`, the functions values of a type `M`. -/
namespace IotConnect.EventBus
open Trace
set_option autoImplicit false

/-- `EventList`: the members that each kind of node uses. -/
inductive EventList (L M : Type)
  | single (listener : L) (event : UInt32)
  | all (listener : L)
  | matching (listener : L) (m : M)
  deriving DecidableEq

section Bus
variable {L M : Type}

def EventList.listener : EventList L M → L
  | .single listener _ | .all listener | .matching listener _ => listener

/-- The members `event` and `match` of a node, cleared where its kind does not use them. -/
def EventList.event : EventList L M → UInt32
  | .single _ event => event
  | .all _ | .matching _ _ => 0

def EventList.matchFunc : EventList L M → Option M
  | .matching _ m => some m
  | .single _ _ | .all _ => none

variable [DecidableEq L] [DecidableEq M]

def isExisted (eventList : List (EventList L M)) (listener : L) (event : UInt32) (matchFunc : Option M) : Bool :=
  eventList.any fun node =>
    match node with
    | .single l e => listener = l ∧ event = e
    | .all l => listener = l
    | .matching _ m => matchFunc = some m

/-- `SubScribe`, `SubScribeMatch` and `SubScribeAll`, which differ in the node. `malloc` says that memory is left. -/
def subScribe (malloc : Bool) (eventList : List (EventList L M)) (node : EventList L M) :
    IotcRet × List (EventList L M) :=
  if isExisted eventList node.listener node.event node.matchFunc then (.ok, eventList)
  else if malloc = false then (.error, eventList)
  else (.ok, eventList ++ [node])

def unsubScribe (eventList : List (EventList L M)) (listener : L) : IotcRet × List (EventList L M) :=
  (if eventList.any fun node => node.listener = listener then .ok else .error,
    eventList.filter fun node => node.listener ≠ listener)

/-! ## Publishing -/

def getPublishList (eventList : List (EventList L M)) (event : UInt32) : List (EventList L M) :=
  eventList.filter fun node =>
    match node with
    | .single _ e => event = e
    | .all _ | .matching _ _ => true

variable (holds : M → UInt32 → Bool)

def eventBusPublishSync (eventList : List (EventList L M)) (event : UInt32) : List L :=
  (getPublishList eventList event).filterMap fun cur =>
    match cur with
    | .single listener e => if event = e then some listener else none
    | .all listener => some listener
    | .matching listener m => if holds m event then some listener else none

def EventList.covers (event : UInt32) : EventList L M → Bool
  | .single _ e => event = e
  | .all _ => true
  | .matching _ m => holds m event

omit [DecidableEq L] [DecidableEq M] in
theorem mem_publish_iff (eventList : List (EventList L M)) (event : UInt32) (listener : L) :
    listener ∈ eventBusPublishSync holds eventList event ↔
      ∃ node ∈ eventList, node.listener = listener ∧ node.covers holds event = true := by
  rw [eventBusPublishSync, List.mem_filterMap]
  apply exists_congr
  intro node
  rw [getPublishList, List.mem_filter, and_assoc]
  apply and_congr_right
  intro _
  cases node with
  | single l e => by_cases h : event = e <;> simp [EventList.covers, EventList.listener, h]
  | all l => simp [EventList.covers, EventList.listener]
  | matching l m => cases hm : holds m event <;> simp [EventList.covers, EventList.listener, hm]

omit [DecidableEq L] [DecidableEq M] in
theorem mem_publish_of_subset {eventList eventList' : List (EventList L M)} {event : UInt32} {listener : L}
    (hsub : eventList ⊆ eventList') (h : listener ∈ eventBusPublishSync holds eventList event) :
    listener ∈ eventBusPublishSync holds eventList' event := by
  rw [mem_publish_iff] at h ⊢
  obtain ⟨node, hmem, hnode⟩ := h
  exact ⟨node, hsub hmem, hnode⟩

/-! ## Calls -/

/-- The calls of the users; the null pointer is `none`. -/
inductive BusCall (L M : Type)
  | subscribe (malloc : Bool) (listener : Option L) (event : UInt32)
  | subscribeMatch (malloc : Bool) (listener : Option L) (m : Option M)
  | subscribeAll (malloc : Bool) (listener : Option L)
  | unsubscribe (listener : Option L)

def BusCall.asked : BusCall L M → Option (EventList L M)
  | .subscribe _ (some listener) event => some (.single listener event)
  | .subscribeMatch _ (some listener) (some m) => some (.matching listener m)
  | .subscribeAll _ (some listener) => some (.all listener)
  | _ => none

def BusCall.malloc : BusCall L M → Bool
  | .subscribe malloc _ _ | .subscribeMatch malloc _ _ | .subscribeAll malloc _ => malloc
  | .unsubscribe _ => true

/-- The list of the bus, and the subscriptions that returned `IOTC_OK` and were not ended since. -/
structure Bus (L M : Type) where
  eventList : List (EventList L M)
  subscribed : List (EventList L M)

def Bus.start : Bus L M := ⟨[], []⟩

def Bus.subscribe (s : Bus L M) (malloc : Bool) (node : EventList L M) : Bus L M :=
  let (ret, eventList) := subScribe malloc s.eventList node
  ⟨eventList, if ret = .ok then node :: s.subscribed else s.subscribed⟩

def Bus.unsubscribe (s : Bus L M) (listener : L) : Bus L M :=
  ⟨(unsubScribe s.eventList listener).2, s.subscribed.filter fun node => node.listener ≠ listener⟩

def busStep (s : Bus L M) : BusCall L M → Bus L M
  | .unsubscribe (some listener) => s.unsubscribe listener
  | call =>
    match call.asked with
    | none => s
    | some node => s.subscribe call.malloc node

/-- Each event is delivered to those that are subscribed to it, and to no others. -/
def Bus.Faithful (s : Bus L M) : Prop :=
  ∀ event listener, listener ∈ eventBusPublishSync holds s.eventList event ↔
    ∃ node ∈ s.subscribed, node.listener = listener ∧ node.covers holds event = true

/-- The list serves the listener of a node with all events that the node is for. -/
def Bus.Served (s : Bus L M) (node : EventList L M) : Prop :=
  ∀ event, node.covers holds event = true →
    ∃ node' ∈ s.eventList, node'.listener = node.listener ∧ node'.covers holds event = true

/-- The call is no subscription by a function or to all events for which a subscription of the listener to event 0
or a subscription by the same function passes, unless the listener gets the events without it. -/
def Lossless (s : Bus L M) (call : BusCall L M) : Prop :=
  match call.asked with
  | some (.matching listener m) =>
    (.single listener 0 ∈ s.eventList ∨ ∃ l, .matching l m ∈ s.eventList) → s.Served holds (.matching listener m)
  | some (.all listener) => .single listener 0 ∈ s.eventList → s.Served holds (.all listener)
  | _ => True

/-! ## One call -/

variable {holds} {s : Bus L M}

theorem isExisted_iff (eventList : List (EventList L M)) (node : EventList L M) :
    isExisted eventList node.listener node.event node.matchFunc = true ↔
      .single node.listener node.event ∈ eventList ∨ .all node.listener ∈ eventList ∨
        ∃ l m, node.matchFunc = some m ∧ .matching l m ∈ eventList := by
  rw [isExisted, List.any_eq_true]
  constructor
  · rintro ⟨node', hmem, h⟩
    cases node' with
    | single l e =>
      obtain ⟨rfl, rfl⟩ := of_decide_eq_true h
      exact .inl hmem
    | all l =>
      obtain rfl := of_decide_eq_true h
      exact .inr (.inl hmem)
    | matching l m => exact .inr (.inr ⟨l, m, of_decide_eq_true h, hmem⟩)
  · rintro (hmem | hmem | ⟨l, m, hm, hmem⟩)
    · exact ⟨_, hmem, by simp⟩
    · exact ⟨_, hmem, by simp⟩
    · exact ⟨_, hmem, by simp [hm]⟩

variable {node : EventList L M}

omit [DecidableEq L] [DecidableEq M] in
theorem Bus.served_of_all (h : .all node.listener ∈ s.eventList) : s.Served holds node :=
  fun _ _ => ⟨_, h, rfl, rfl⟩

omit [DecidableEq L] [DecidableEq M] in
theorem Bus.served_of_mem (h : node ∈ s.eventList) : s.Served holds node :=
  fun _ hcovers => ⟨node, h, rfl, hcovers⟩

theorem subScribe_subset (malloc : Bool) (eventList : List (EventList L M)) (node : EventList L M) :
    eventList ⊆ (subScribe malloc eventList node).2 := by
  unfold subScribe
  split_ifs
  · exact List.Subset.refl _
  · exact List.Subset.refl _
  · exact List.subset_append_left _ _

theorem mem_publish_subScribe {malloc : Bool} {eventList : List (EventList L M)} {listener : L} {event : UInt32}
    (h : (subScribe malloc eventList (.single listener event)).1 = .ok) :
    listener ∈ eventBusPublishSync holds (subScribe malloc eventList (.single listener event)).2 event := by
  rw [mem_publish_iff]
  unfold subScribe at h ⊢
  split_ifs at h ⊢ with hex
  · rcases (isExisted_iff _ _).mp hex with hnode | hnode | ⟨l, m, hm, -⟩
    · exact ⟨_, hnode, rfl, by simp [EventList.covers, EventList.event]⟩
    · exact ⟨_, hnode, rfl, rfl⟩
    · exact absurd hm (by simp [EventList.matchFunc])
  · exact ⟨.single listener event, by simp, rfl, by simp [EventList.covers]⟩

/-- A call is lossless if the nodes that pass for the subscription serve it. A node of the kind that is asked for,
and one to all events, always do. -/
theorem lossless_iff {call : BusCall L M} (hcall : call.asked = some node) : Lossless holds s call ↔
      (isExisted s.eventList node.listener node.event node.matchFunc = true → s.Served holds node) := by
  rw [isExisted_iff, Lossless, hcall]
  cases node with
  | single listener event =>
    apply iff_of_true trivial
    rintro (h | h | ⟨l, m, hm, -⟩)
    · exact Bus.served_of_mem h
    · exact Bus.served_of_all h
    · exact absurd hm (by simp [EventList.matchFunc])
  | all listener =>
    constructor
    · rintro hloss (h | h | ⟨l, m, hm, -⟩)
      · exact hloss h
      · exact Bus.served_of_all h
      · exact absurd hm (by simp [EventList.matchFunc])
    · exact fun h hzero => h (.inl hzero)
  | matching listener m =>
    constructor
    · rintro hloss (h | h | ⟨l, m', hm, h⟩)
      · exact hloss (.inl h)
      · exact Bus.served_of_all h
      · obtain rfl : m = m' := by simpa [EventList.matchFunc] using hm
        exact hloss (.inr ⟨l, h⟩)
    · rintro h (hzero | ⟨l, hl⟩)
      · exact h (.inl hzero)
      · exact h (.inr (.inr ⟨l, m, rfl, hl⟩))

theorem Bus.Faithful.subscribe_iff (h : s.Faithful holds) (malloc : Bool) (node : EventList L M) :
    (s.subscribe malloc node).Faithful holds ↔
      (isExisted s.eventList node.listener node.event node.matchFunc = true → s.Served holds node) := by
  by_cases hex : isExisted s.eventList node.listener node.event node.matchFunc = true
  · have hsub : s.subscribe malloc node = ⟨s.eventList, node :: s.subscribed⟩ := by
      simp [Bus.subscribe, subScribe, hex]
    rw [hsub]
    simp only [hex, true_implies]
    constructor
    · intro hfaith event hcovers
      exact (mem_publish_iff holds _ _ _).mp
        ((hfaith event node.listener).mpr ⟨node, List.mem_cons_self, rfl, hcovers⟩)
    · intro hserved event listener
      rw [h event listener]
      constructor
      · rintro ⟨node', hmem, hnode'⟩
        exact ⟨node', List.mem_cons_of_mem _ hmem, hnode'⟩
      · rintro ⟨node', hmem, rfl, hcovers⟩
        rcases List.mem_cons.mp hmem with rfl | hmem
        · exact (h event _).mp ((mem_publish_iff holds _ _ _).mpr (hserved event hcovers))
        · exact ⟨node', hmem, rfl, hcovers⟩
  · apply iff_of_true _ (fun h => absurd h hex)
    cases malloc with
    | false => simpa [Bus.subscribe, subScribe, hex] using h
    | true =>
      have hsub : s.subscribe true node = ⟨s.eventList ++ [node], node :: s.subscribed⟩ := by
        simp [Bus.subscribe, subScribe, hex]
      rw [hsub]
      intro event listener
      rw [mem_publish_iff]
      simp only [List.mem_append, List.mem_cons, List.not_mem_nil, or_false, or_and_right, exists_or,
        exists_eq_left]
      rw [← mem_publish_iff, h event listener, or_comm]

omit [DecidableEq M] in
theorem exists_kept_iff (eventList : List (EventList L M)) (listener l : L) (event : UInt32) :
    (∃ node ∈ eventList.filter fun node => node.listener ≠ listener,
      node.listener = l ∧ node.covers holds event = true) ↔
      l ≠ listener ∧ ∃ node ∈ eventList, node.listener = l ∧ node.covers holds event = true := by
  constructor
  · rintro ⟨node, hmem, rfl, hcovers⟩
    obtain ⟨hmem, hne⟩ := List.mem_filter.mp hmem
    exact ⟨of_decide_eq_true hne, node, hmem, rfl, hcovers⟩
  · rintro ⟨hne, node, hmem, rfl, hcovers⟩
    exact ⟨node, List.mem_filter.mpr ⟨hmem, decide_eq_true hne⟩, rfl, hcovers⟩

omit [DecidableEq M] in
theorem mem_publish_unsubScribe (eventList : List (EventList L M)) (listener l : L) (event : UInt32) :
    l ∈ eventBusPublishSync holds (unsubScribe eventList listener).2 event ↔
      l ≠ listener ∧ l ∈ eventBusPublishSync holds eventList event := by
  rw [mem_publish_iff, mem_publish_iff]
  exact exists_kept_iff eventList listener l event

omit [DecidableEq M] in
theorem Bus.Faithful.unsubscribe (h : s.Faithful holds) (listener : L) :
    (s.unsubscribe listener).Faithful holds := by
  intro event l
  rw [Bus.unsubscribe, mem_publish_unsubScribe, exists_kept_iff, h event l]

theorem busStep_of_asked {call : BusCall L M} (hcall : call.asked = some node) :
    busStep s call = s.subscribe call.malloc node := by
  cases call with
  | unsubscribe listener => cases listener <;> simp [BusCall.asked] at hcall
  | subscribe malloc listener event => simp [busStep, hcall]
  | subscribeMatch malloc listener m => simp [busStep, hcall]
  | subscribeAll malloc listener => simp [busStep, hcall]

theorem Bus.Faithful.step_iff (h : s.Faithful holds) (call : BusCall L M) :
    (busStep s call).Faithful holds ↔ Lossless holds s call := by
  cases hcall : call.asked with
  | some node => rw [busStep_of_asked hcall, h.subscribe_iff, lossless_iff hcall]
  | none =>
    apply iff_of_true _ (by rw [Lossless, hcall]; trivial)
    cases call with
    | unsubscribe listener =>
      cases listener with
      | none => exact h
      | some listener => exact h.unsubscribe listener
    | subscribe malloc listener event => simpa [busStep, hcall] using h
    | subscribeMatch malloc listener m => simpa [busStep, hcall] using h
    | subscribeAll malloc listener => simpa [busStep, hcall] using h

/-! ## All calls -/

omit [DecidableEq L] [DecidableEq M] in
theorem Bus.start_faithful : (Bus.start : Bus L M).Faithful holds := by
  intro event listener
  rw [mem_publish_iff]
  rfl

end Bus

/-- Delivery is right after every call of a sequence exactly if no subscription is lost in a test for another. -/
theorem publish_faithful_iff {L M : Type} [DecidableEq L] [DecidableEq M] (holds : M → UInt32 → Bool)
    (calls : List (BusCall L M)) :
    Along busStep (fun s call => (busStep s call).Faithful holds) Bus.start calls ↔
      Along busStep (Lossless holds) Bus.start calls := by
  have hinv : ∀ (s : Bus L M) (call : BusCall L M), True → True := fun _ _ h => h
  have hkept : ∀ (s : Bus L M) (call : BusCall L M), True → s.Faithful holds →
      ((busStep s call).Faithful holds ↔ Lossless holds s call) := by
    intro s call _ hs
    exact hs.step_iff call
  exact along_kept_iff hinv hkept trivial Bus.start_faithful calls

/-- A listener with a subscription to event 0 subscribes to all events with success; event 1 does not reach it. -/
theorem subscribe_all_after_zero_lost :
    let s : Bus Bool Bool := run busStep .start [.subscribe true (some true) 0, .subscribeAll true (some true)]
    s.subscribed = [.all true, .single true 0] ∧ s.eventList = [.single true 0] ∧
      ¬ s.Faithful fun m _ => m := by
  intro s
  have hlost : eventBusPublishSync (fun m _ => m) s.eventList 1 = [] := by decide
  refine ⟨by decide, by decide, ?_⟩
  intro hfaith
  have hcalled := (hfaith 1 true).mpr ⟨.all true, by decide, rfl, rfl⟩
  rw [hlost] at hcalled
  simp at hcalled

end IotConnect.EventBus
