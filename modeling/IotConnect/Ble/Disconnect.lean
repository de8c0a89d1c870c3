import IotConnect.Ble.CreateSession
import IotConnect.Frameworks.EventBus

/-! # Connections of the BLE service (`ble_sched_event.c`)

The handlers of the connect and disconnect events keep the connections in the first `connNum` places of an array.
What ends with a connection, the session key and the SPEKE session, is reset by two listeners of the event bus,
which the disconnect handler calls with its last statement. It does not get there if the advertising cannot be
resumed, and it gets there also for a connection that it does not know. -/
namespace IotConnect.Ble
open Bytes EventBus Trace
set_option autoImplicit false

def bleDefaultMaxConnNum : ℕ := 1

/-! ## The array -/

structure BlePeerDevInfo where
  connId : UInt32
  serverId : UInt32
  peerAddr : Block 6
  deriving DecidableEq

def BlePeerDevInfo.zero : BlePeerDevInfo := ⟨0, 0, .zero _⟩

/-- The members of `BleGattMgtApp` for the connections. -/
structure BleGattMgtApp where
  peerDevInfo : List BlePeerDevInfo
  connNum : ℕ

/-- Copy the next place to place `j`, and so on for `n` places. -/
def moveDown (peerDevInfo : List BlePeerDevInfo) (j : ℕ) : ℕ → List BlePeerDevInfo
  | 0 => peerDevInfo
  | n + 1 => moveDown (peerDevInfo.set j (peerDevInfo.getD (j + 1) .zero)) (j + 1) n

/-- The loop of `BleEventDisconnectHandler`, from place `i` on with `n` places to go. -/
def BleGattMgtApp.removeFrom (app : BleGattMgtApp) (connId : UInt32) (i : ℕ) : ℕ → BleGattMgtApp
  | 0 => app
  | n + 1 =>
    if (app.peerDevInfo.getD i .zero).connId ≠ connId then app.removeFrom connId (i + 1) n
    else
      let maxIndex := app.connNum - 1
      ⟨(moveDown app.peerDevInfo i (maxIndex - i)).set maxIndex .zero, maxIndex⟩

def BleGattMgtApp.add (app : BleGattMgtApp) (peer : BlePeerDevInfo) : BleGattMgtApp :=
  ⟨app.peerDevInfo.set app.connNum peer, app.connNum + 1⟩

/-! ## The handlers -/

/-- The callbacks that the bus may call: the two of this component, and any others. -/
inductive BleListener
  | bleSessGattDisconnectCb
  | bleSpekeSessClear
  | other (id : ℕ)
  deriving DecidableEq

inductive IotcOhCloudRegisterState
  | unregister
  | register
  deriving DecidableEq

def eventMainReset : UInt32 := 0x10003
def eventMainQuit : UInt32 := 0x10004
def eventGattConnect : UInt32 := 0x10006
def eventGattDisconnect : UInt32 := 0x10007

/-- The connections, the session, the SPEKE session (a value of a type `S`) and the subscriptions. -/
structure BleDevice (S M : Type) where
  app : BleGattMgtApp
  sessParam : BleSessParam
  spekeSess : Option S
  eventList : List (EventList BleListener M)

/-- What happens while the service runs. A disconnect comes with what the product's callback leaves in `state` and
whether the advertising can be resumed; `calloc` says that there is memory for the list of listeners. The messages
of the peer may put anything into the session and create a SPEKE session. Other components subscribe other
listeners: the two here are `static`. -/
inductive BleEvent (S M : Type)
  | connect (peer : BlePeerDevInfo) (calloc : Bool)
  | disconnect (connId : UInt32) (state : IotcOhCloudRegisterState) (advCtrlResume calloc : Bool)
  | session (sessParam : BleSessParam)
  | speke (malloc : UInt32 → Bool) (spekeInitSession : Option S)
  | subscribe (malloc : Bool) (node : EventList BleListener M) (id : ℕ) (h : node.listener = .other id)
  | unsubscribe (id : ℕ)

section Device
variable {S M : Type}

def BleDevice.callback (s : BleDevice S M) : BleListener → BleDevice S M
  | .bleSessGattDisconnectCb => { s with sessParam := .init }
  | .bleSpekeSessClear => { s with spekeSess := none }
  | .other _ => s

variable (holds : M → UInt32 → Bool)

def BleDevice.publish (s : BleDevice S M) (calloc : Bool) (event : UInt32) : BleDevice S M :=
  if calloc then (eventBusPublishSync holds s.eventList event).foldl BleDevice.callback s else s

def bleEventConnectHandler (s : BleDevice S M) (peer : BlePeerDevInfo) (calloc : Bool) : BleDevice S M :=
  if s.app.connNum ≥ bleDefaultMaxConnNum then s
  else { s with app := s.app.add peer }.publish holds calloc eventGattConnect

def bleEventDisconnectHandler (s : BleDevice S M) (connId : UInt32) (state : IotcOhCloudRegisterState)
    (advCtrlResume calloc : Bool) : BleDevice S M :=
  if s.app.connNum = 0 then s
  else
    let s := { s with app := s.app.removeFrom connId 0 s.app.connNum }
    if state = .unregister ∧ advCtrlResume = false then s
    else s.publish holds calloc eventGattDisconnect

variable [DecidableEq M]

/-- Subscribe a listener to one event after another, up to the first that fails. -/
def subscribeEach (malloc : UInt32 → Bool) (listener : BleListener) :
    List UInt32 → List (EventList BleListener M) → IotcRet × List (EventList BleListener M)
  | [], eventList => (.ok, eventList)
  | event :: events, eventList =>
    match subScribe (malloc event) eventList (.single listener event) with
    | (.ok, eventList) => subscribeEach malloc listener events eventList
    | (ret, eventList) => (ret, eventList)

def createBleSpekeSess (s : BleDevice S M) (malloc : UInt32 → Bool) (spekeInitSession : Option S) :
    BleDevice S M :=
  match s.spekeSess with
  | some _ => s
  | none =>
    match subscribeEach malloc .bleSpekeSessClear [eventGattDisconnect, eventMainReset, eventMainQuit]
      s.eventList with
    | (.ok, eventList) => { s with eventList, spekeSess := spekeInitSession }
    | (_, eventList) => { s with eventList }

def bleStep (s : BleDevice S M) : BleEvent S M → BleDevice S M
  | .connect peer calloc => bleEventConnectHandler holds s peer calloc
  | .disconnect connId state advCtrlResume calloc =>
    bleEventDisconnectHandler holds s connId state advCtrlResume calloc
  | .session sessParam => { s with sessParam }
  | .speke malloc spekeInitSession => createBleSpekeSess s malloc spekeInitSession
  | .subscribe malloc node _ _ => { s with eventList := (subScribe malloc s.eventList node).2 }
  | .unsubscribe id => { s with eventList := (unsubScribe s.eventList (.other id)).2 }

/-- The service has started: `BleSessInit` has subscribed its listener. -/
def BleDevice.start : BleDevice S M where
  app := ⟨List.replicate bleDefaultMaxConnNum .zero, 0⟩
  sessParam := .init
  spekeSess := none
  eventList := (subScribe true [] (.single .bleSessGattDisconnectCb eventGattDisconnect)).2

/-! ## Live connections -/

def liveStep (live : List BlePeerDevInfo) : BleEvent S M → List BlePeerDevInfo
  | .connect peer _ => if live.length < bleDefaultMaxConnNum then live ++ [peer] else live
  | .disconnect connId _ _ _ => live.eraseP fun peer => peer.connId = connId
  | _ => live

/-- The device beside the connections that are live. -/
structure BleWorld (S M : Type) where
  dev : BleDevice S M
  live : List BlePeerDevInfo

def BleWorld.start : BleWorld S M := ⟨.start, []⟩

/-- The array lists the live connections, in order, in its first places. -/
def BleWorld.Listed (w : BleWorld S M) : Prop :=
  w.dev.app.peerDevInfo.take w.dev.app.connNum = w.live ∧ w.dev.app.connNum = w.live.length ∧
    w.dev.app.connNum ≤ bleDefaultMaxConnNum

def BleDevice.Reset (s : BleDevice S M) : Prop := s.sessParam = .init ∧ s.spekeSess = none

def BleGattMgtApp.Lists (app : BleGattMgtApp) (live : List BlePeerDevInfo) : Prop :=
  app.connNum = live.length ∧ app.peerDevInfo.length = bleDefaultMaxConnNum ∧ ∃ rest, app.peerDevInfo = live ++ rest

theorem moveDown_append (before : List BlePeerDevInfo) (peer : BlePeerDevInfo) (after rest : List BlePeerDevInfo) :
    ∃ last, moveDown (before ++ peer :: (after ++ rest)) before.length after.length
      = before ++ (after ++ last :: rest) := by
  induction after generalizing before peer with
  | nil => exact ⟨peer, rfl⟩
  | cons next after ih =>
    obtain ⟨last, hlast⟩ := ih (before ++ [next]) next
    refine ⟨last, ?_⟩
    have hset : (before ++ peer :: (next :: after ++ rest)).set before.length
        ((before ++ peer :: (next :: after ++ rest)).getD (before.length + 1) .zero)
        = before ++ [next] ++ next :: (after ++ rest) := by
      simp
    rw [List.length_cons, moveDown, hset]
    simpa using hlast

theorem removeFrom_append (connId : UInt32) (passed todo rest : List BlePeerDevInfo) :
    ∃ rest', BleGattMgtApp.removeFrom ⟨passed ++ (todo ++ rest), passed.length + todo.length⟩ connId passed.length
        todo.length
      = ⟨passed ++ ((todo.eraseP fun peer => peer.connId = connId) ++ rest'),
        passed.length + (todo.eraseP fun peer => peer.connId = connId).length⟩ ∧
      (todo.eraseP fun peer => peer.connId = connId).length + rest'.length = todo.length + rest.length := by
  induction todo generalizing passed with
  | nil => exact ⟨rest, rfl, rfl⟩
  | cons peer todo ih =>
    have hget : (passed ++ (peer :: todo ++ rest)).getD passed.length .zero = peer := by simp
    rw [List.length_cons, BleGattMgtApp.removeFrom, hget]
    by_cases hid : peer.connId = connId
    · obtain ⟨last, hlast⟩ := moveDown_append passed peer todo rest
      have hmax : passed.length + (todo.length + 1) - 1 = passed.length + todo.length := by omega
      have hleft : passed.length + todo.length - passed.length = todo.length := by omega
      have herase : ((peer :: todo).eraseP fun peer => peer.connId = connId) = todo := by simp [hid]
      rw [herase, if_neg (not_not.mpr hid)]
      refine ⟨.zero :: rest, ?_, by simp; omega⟩
      simp only [hmax, hleft, List.cons_append, hlast]
      simp
    · obtain ⟨rest', happ, hlen⟩ := ih (passed ++ [peer])
      have herase : ((peer :: todo).eraseP fun peer => peer.connId = connId)
          = peer :: todo.eraseP fun peer => peer.connId = connId := by simp [hid]
      rw [herase, if_pos hid]
      refine ⟨rest', ?_, by simp only [List.length_cons]; omega⟩
      simpa [Nat.add_assoc, Nat.add_comm 1] using happ

theorem BleGattMgtApp.Lists.remove {app : BleGattMgtApp} {live : List BlePeerDevInfo} (h : app.Lists live)
    (connId : UInt32) :
    (app.removeFrom connId 0 app.connNum).Lists (live.eraseP fun peer => peer.connId = connId) := by
  obtain ⟨peerDevInfo, connNum⟩ := app
  obtain ⟨rfl, hlen, rest, rfl⟩ := h
  obtain ⟨rest', hrem, hkept⟩ := removeFrom_append connId [] live rest
  simp only [List.nil_append, List.length_nil, Nat.zero_add] at hrem
  rw [hrem]
  refine ⟨rfl, ?_, rest', rfl⟩
  rw [List.length_append] at hlen ⊢
  omega

theorem BleGattMgtApp.Lists.add {app : BleGattMgtApp} {live : List BlePeerDevInfo} (h : app.Lists live)
    (hfree : live.length < bleDefaultMaxConnNum) (peer : BlePeerDevInfo) : (app.add peer).Lists (live ++ [peer]) := by
  obtain ⟨peerDevInfo, connNum⟩ := app
  obtain ⟨rfl, hlen, rest, rfl⟩ := h
  cases rest with
  | nil => simp at hlen; omega
  | cons old rest =>
    refine ⟨by simp [BleGattMgtApp.add], ?_, rest, by simp [BleGattMgtApp.add]⟩
    simpa [BleGattMgtApp.add] using hlen

/-! ## What the listeners do -/

variable {holds} {s : BleDevice S M}

omit [DecidableEq M] in
theorem callbacks_kept (s : BleDevice S M) (called : List BleListener) :
    (called.foldl BleDevice.callback s).app = s.app ∧
      (called.foldl BleDevice.callback s).eventList = s.eventList := by
  induction called generalizing s with
  | nil => exact ⟨rfl, rfl⟩
  | cons listener called ih =>
    rw [List.foldl_cons, (ih _).1, (ih _).2]
    cases listener <;> exact ⟨rfl, rfl⟩

omit [DecidableEq M] in
theorem callbacks_reset (s : BleDevice S M) (called : List BleListener) :
    (s.sessParam = .init ∨ .bleSessGattDisconnectCb ∈ called →
      (called.foldl BleDevice.callback s).sessParam = .init) ∧
    (s.spekeSess = none ∨ .bleSpekeSessClear ∈ called →
      (called.foldl BleDevice.callback s).spekeSess = none) := by
  induction called generalizing s with
  | nil => simp
  | cons listener called ih =>
    have hnext := ih (s.callback listener)
    cases listener <;> simp_all [BleDevice.callback]

omit [DecidableEq M] in
theorem publish_kept (s : BleDevice S M) (calloc : Bool) (event : UInt32) :
    (s.publish holds calloc event).app = s.app ∧ (s.publish holds calloc event).eventList = s.eventList := by
  unfold BleDevice.publish
  split
  · exact callbacks_kept s _
  · exact ⟨rfl, rfl⟩

/-! ## Subscriptions -/

def BleDevice.Attended (holds : M → UInt32 → Bool) (s : BleDevice S M) : Prop :=
  .bleSessGattDisconnectCb ∈ eventBusPublishSync holds s.eventList eventGattDisconnect ∧
    (s.spekeSess ≠ none → .bleSpekeSessClear ∈ eventBusPublishSync holds s.eventList eventGattDisconnect)

omit [DecidableEq M] in
theorem BleDevice.Attended.publish (h : s.Attended holds) :
    (s.publish holds true eventGattDisconnect).Reset := by
  obtain ⟨hsess, hspeke⟩ := callbacks_reset s (eventBusPublishSync holds s.eventList eventGattDisconnect)
  refine ⟨hsess (.inr h.1), hspeke ?_⟩
  by_cases hnone : s.spekeSess = none
  · exact .inl hnone
  · exact .inr (h.2 hnone)

omit [DecidableEq M] in
theorem BleDevice.Attended.of_publish {calloc : Bool} {event : UInt32} (h : s.Attended holds) :
    (s.publish holds calloc event).Attended holds := by
  refine ⟨?_, ?_⟩
  · rw [(publish_kept s calloc event).2]
    exact h.1
  · intro hspeke
    rw [(publish_kept s calloc event).2]
    apply h.2
    intro hnone
    unfold BleDevice.publish at hspeke
    split at hspeke
    · exact hspeke ((callbacks_reset s _).2 (.inl hnone))
    · exact hspeke hnone

omit [DecidableEq M] in
theorem BleDevice.Attended.of_subset (h : s.Attended holds) {eventList : List (EventList BleListener M)}
    (hsub : s.eventList ⊆ eventList) : { s with eventList }.Attended holds :=
  ⟨mem_publish_of_subset holds hsub h.1, fun hspeke => mem_publish_of_subset holds hsub (h.2 hspeke)⟩

theorem subscribeEach_subset (malloc : UInt32 → Bool) (listener : BleListener) (events : List UInt32)
    (eventList : List (EventList BleListener M)) : eventList ⊆ (subscribeEach malloc listener events eventList).2 := by
  induction events generalizing eventList with
  | nil => exact List.Subset.refl _
  | cons event events ih =>
    have hfirst := subScribe_subset (malloc event) eventList (.single listener event)
    rw [subscribeEach]
    split
    next eventList' hsub =>
      rw [hsub] at hfirst
      exact List.Subset.trans hfirst (ih eventList')
    next ret eventList' _ hsub =>
      rw [hsub] at hfirst
      exact hfirst

theorem mem_publish_subscribeEach {malloc : UInt32 → Bool} {listener : BleListener} {event : UInt32}
    {events : List UInt32} {eventList : List (EventList BleListener M)}
    (h : (subscribeEach malloc listener (event :: events) eventList).1 = .ok) :
    listener ∈ eventBusPublishSync holds (subscribeEach malloc listener (event :: events) eventList).2 event := by
  rw [subscribeEach] at h ⊢
  split at h
  next eventList' hsub =>
    have hfirst : listener ∈ eventBusPublishSync holds
        (subScribe (malloc event) eventList (.single listener event)).2 event :=
      mem_publish_subScribe (congrArg Prod.fst hsub)
    rw [hsub] at hfirst
    exact mem_publish_of_subset holds (subscribeEach_subset malloc listener events eventList') hfirst
  next ret eventList' hne hsub => exact absurd h (by simpa using hne)

theorem BleDevice.Attended.speke (h : s.Attended holds) (malloc : UInt32 → Bool) (spekeInitSession : Option S) :
    (createBleSpekeSess s malloc spekeInitSession).Attended holds := by
  unfold createBleSpekeSess
  cases hspeke : s.spekeSess with
  | some _ => exact h
  | none =>
    have hsub := subscribeEach_subset malloc .bleSpekeSessClear
      [eventGattDisconnect, eventMainReset, eventMainQuit] s.eventList
    dsimp only
    split
    next eventList heach =>
      rw [heach] at hsub
      have hmem : .bleSpekeSessClear ∈ eventBusPublishSync holds (subscribeEach malloc .bleSpekeSessClear
          [eventGattDisconnect, eventMainReset, eventMainQuit] s.eventList).2 eventGattDisconnect :=
        mem_publish_subscribeEach (congrArg Prod.fst heach)
      rw [heach] at hmem
      exact ⟨mem_publish_of_subset holds hsub h.1, fun _ => hmem⟩
    next ret eventList _ heach =>
      rw [heach] at hsub
      have hkept := h.of_subset hsub
      rwa [hspeke] at hkept

/-! ## One event -/

theorem BleDevice.Attended.step (h : s.Attended holds) (e : BleEvent S M) :
    (bleStep holds s e).Attended holds := by
  cases e with
  | connect peer calloc =>
    rw [bleStep, bleEventConnectHandler]
    split
    · exact h
    · have hadd : { s with app := s.app.add peer }.Attended holds := h
      exact hadd.of_publish
  | disconnect connId state advCtrlResume calloc =>
    rw [bleStep, bleEventDisconnectHandler]
    have hrem : { s with app := s.app.removeFrom connId 0 s.app.connNum }.Attended holds := h
    split_ifs
    · exact h
    · exact hrem
    · exact hrem.of_publish
  | session sessParam => exact h
  | speke malloc spekeInitSession => exact h.speke malloc spekeInitSession
  | subscribe malloc node id hother => exact h.of_subset (subScribe_subset malloc s.eventList node)
  | unsubscribe id =>
    refine ⟨(mem_publish_unsubScribe _ _ _ _).mpr ⟨by simp, h.1⟩, fun hspeke => ?_⟩
    exact (mem_publish_unsubScribe _ _ _ _).mpr ⟨by simp, h.2 hspeke⟩

theorem BleGattMgtApp.Lists.step {live : List BlePeerDevInfo} (h : s.app.Lists live) (e : BleEvent S M) :
    (bleStep holds s e).app.Lists (liveStep live e) := by
  cases e with
  | connect peer calloc =>
    rw [bleStep, bleEventConnectHandler, liveStep, h.1]
    by_cases hfree : live.length < bleDefaultMaxConnNum
    · rw [if_pos hfree, if_neg (by omega), (publish_kept _ _ _).1]
      exact h.add hfree peer
    · rw [if_neg hfree, if_pos (by omega)]
      exact h
  | disconnect connId state advCtrlResume calloc =>
    rw [bleStep, bleEventDisconnectHandler, liveStep]
    split_ifs with hnone
    · obtain rfl : live = [] := List.length_eq_zero_iff.mp (h.1.symm.trans hnone)
      exact h
    · exact h.remove connId
    · rw [(publish_kept _ _ _).1]
      exact h.remove connId
  | session sessParam => exact h
  | speke malloc spekeInitSession =>
    have happ : (createBleSpekeSess s malloc spekeInitSession).app = s.app := by
      unfold createBleSpekeSess
      split
      · rfl
      · split <;> rfl
    rw [bleStep, happ]
    exact h
  | subscribe malloc node id hother => exact h
  | unsubscribe id => exact h

end Device

def samplePeer : BlePeerDevInfo := ⟨1, 0, .zero _⟩

end IotConnect.Ble
