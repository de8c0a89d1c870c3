import IotConnect.Common.Errcode

/-! # The responses to a message (`service_manager.c`)

A service has a node for each message it sends, with the list of the services that have subscribed to it and their
number; handlers are values of a type `H`. `ServiceProxySendMessage` has an array with an entry for each subscriber.
`ResponseMessageSort` is to bring the entries with a response to its front. It copies every response behind the first
empty entry to that entry: the second one of them overwrites the first. Responses are of a type `M`, the handlers that
free them of a type `F`. -/
namespace IotConnect.Service
set_option autoImplicit false

structure MessageSubNode (H : Type) where
  serviceId : Int32
  subHandler : H
  deriving DecidableEq

structure MessageNode (H : Type) where
  messageId : Int32
  subNum : UInt32
  subList : List (MessageSubNode H)
  deriving DecidableEq

structure ServiceNode (H : Type) where
  serviceId : Int32
  instanceId : Int32
  msgs : List (MessageNode H)
  deriving DecidableEq

structure ServiceManagerContext (H : Type) where
  serviceList : List (ServiceNode H)
  deriving DecidableEq

inductive ServiceIdType
  | serviceId
  | instanceId

inductive ServiceMessageType
  | request
  | response
  deriving DecidableEq

structure ServiceMessage (M F : Type) where
  serviceId : Int32
  msgId : Int32
  type : ServiceMessageType
  msg : Option M
  ctx : Option F
  deriving DecidableEq

section
variable {H M F : Type}

/-! ## The functions -/

def getMessageNode (svcNode : ServiceNode H) (mid : Int32) : Option (MessageNode H) :=
  svcNode.msgs.find? fun msg => msg.messageId = mid

def ServiceNode.hasId (id : Int32) (type : ServiceIdType) (node : ServiceNode H) : Bool :=
  match type with
  | .serviceId => node.serviceId = id
  | .instanceId => node.instanceId = id

def getServiceNode (ctx : ServiceManagerContext H) (id : Int32) (type : ServiceIdType) : Option (ServiceNode H) :=
  ctx.serviceList.find? (ServiceNode.hasId id type)

def getMsgSubList (svcNode : ServiceNode H) (msgId : Int32) (calloc : Bool) :
    Except IotcRet (List (MessageSubNode H)) :=
  match getMessageNode svcNode msgId with
  | none => .error .fwkErrServiceMessageInvalid
  | some msgNode =>
    if msgNode.subNum = 0 then .ok []
    else if calloc = false then .error .memErrCalloc
    else .ok (msgNode.subList.take msgNode.subNum.toNat)

/-- `ServiceProxySendMessage` up to the first handler: those that `SendMsgToSubHandler` calls, in order. -/
def serviceProxySendMessage (ctx : ServiceManagerContext H) (instanceId msgId : Int32) (calloc : Bool) :
    Except IotcRet (List (MessageSubNode H)) :=
  match getServiceNode ctx instanceId .instanceId with
  | none => .error .fwkErrServiceInstanceInvalid
  | some srcSvc => getMsgSubList srcSvc msgId calloc

/-- What `memset_s` leaves. -/
def ServiceMessage.zero : ServiceMessage M F := ⟨0, 0, .request, none, none⟩

def ServiceMessage.hasMsg (m : ServiceMessage M F) : Bool := m.msg.isSome

/-- The variables of `ResponseMessageSort`. -/
structure Sorting (M F : Type) where
  index : ℕ
  finalNum : ℕ
  resp : List (ServiceMessage M F)

def sortStep (num i : ℕ) (s : Sorting M F) : Sorting M F :=
  match s.resp[i]? with
  | none => s
  | some m =>
    if m.hasMsg = false then (if s.index = num then { s with index := i } else s)
    else if s.index ≥ i then { s with finalNum := s.finalNum + 1 }
    else ⟨s.index, s.finalNum + 1, (s.resp.set s.index m).set i .zero⟩

/-- The loop, with the number of rounds that are left. -/
def sortLoop (num : ℕ) : ℕ → Sorting M F → Sorting M F
  | 0, s => s
  | left + 1, s => sortLoop num left (sortStep num (num - (left + 1)) s)

def responseMessageSort (resp : List (ServiceMessage M F)) : Sorting M F :=
  sortLoop resp.length resp.length ⟨resp.length, 0, resp⟩

/-- `outcome i` is the response of the handler `i` and the handler that frees it, if it returns `IOTC_OK` and one. -/
def sendMsgToSubHandler (outcome : ℕ → Option (M × Option F)) (respMsg : List (ServiceMessage M F)) :
    List (ServiceMessage M F) :=
  respMsg.mapIdx fun i m =>
    match outcome i with
    | none => m
    | some (msg, freeHandler) => { m with msg := some msg, ctx := freeHandler }

/-- The calls that `ServiceProxyFreeResponseMessage` makes. -/
def serviceProxyFreeResponseMessage (resp : List (ServiceMessage M F)) (respNum : ℕ) : List (F × M) :=
  (resp.take respNum).filterMap fun cur => cur.msg.bind fun msg => cur.ctx.map fun freeHandler => (freeHandler, msg)

/-- The array when the handlers have been called. -/
def answered (ctx : ServiceManagerContext H) (instanceId msgId : Int32) (calloc : Bool)
    (outcome : ℕ → Option (M × Option F)) : Except IotcRet (List (ServiceMessage M F)) :=
  match serviceProxySendMessage ctx instanceId msgId calloc with
  | .error ret => .error ret
  | .ok subs => .ok (sendMsgToSubHandler outcome (subs.map fun sub => ⟨sub.serviceId, msgId, .response, none, none⟩))

/-- `ServiceProxySendMessage`, called with `resp` and `respNum`: its result, and the array with its number. -/
def sendForResponse (ctx : ServiceManagerContext H) (instanceId msgId : Int32) (calloc : Bool)
    (outcome : ℕ → Option (M × Option F)) : IotcRet × Option (List (ServiceMessage M F) × ℕ) :=
  match answered ctx instanceId msgId calloc outcome with
  | .error ret => (ret, none)
  | .ok respMsg =>
    let s := responseMessageSort respMsg
    if s.finalNum = 0 then (.ok, none) else (.ok, some (s.resp, s.finalNum))

/-! ## The loop -/

/-- The response that is last copied to the first empty entry `m`. -/
def lastOr (m : ServiceMessage M F) (l : List (ServiceMessage M F)) : ServiceMessage M F :=
  l.foldl (fun last m => if m.hasMsg then m else last) m

def cleared (m : ServiceMessage M F) : ServiceMessage M F := if m.hasMsg then .zero else m

theorem cleared_hasMsg (m : ServiceMessage M F) : (cleared m).hasMsg = false := by
  unfold cleared
  split_ifs with h
  · rfl
  · exact Bool.eq_false_iff.mpr h

variable {m : ServiceMessage M F} {num : ℕ}

/-- Before the first empty entry nothing moves. -/
theorem sortLoop_full (done full rest : List (ServiceMessage M F)) (hfull : ∀ m ∈ full, m.hasMsg = true)
    (hnum : num = done.length + full.length + rest.length) :
    sortLoop num (full.length + rest.length) ⟨num, done.length, done ++ (full ++ rest)⟩ =
      sortLoop num rest.length ⟨num, (done ++ full).length, done ++ full ++ rest⟩ := by
  induction full generalizing done with
  | nil => simp
  | cons m full ih =>
    obtain ⟨hm, hfull⟩ := List.forall_mem_cons.mp hfull
    have hpos : num - (full.length + rest.length + 1) = done.length := by
      rw [hnum, List.length_cons]
      omega
    have hle : num ≥ done.length := by omega
    rw [List.length_cons, Nat.succ_add, sortLoop, hpos]
    have hstep : sortStep num done.length ⟨num, done.length, done ++ (m :: full ++ rest)⟩ =
        ⟨num, done.length + 1, done ++ (m :: full ++ rest)⟩ := by
      simp [sortStep, hm, hle]
    have hnext := ih (done ++ [m]) hfull (by rw [hnum]; simp; omega)
    simp only [List.length_append, List.length_cons, List.length_nil, List.append_assoc] at hnext
    rw [hstep, List.length_append, List.length_cons]
    simpa [Nat.add_assoc, Nat.add_comm] using hnext

/-- Behind it every response goes to the first empty entry, whoever is there. -/
theorem sortLoop_moved (done mid todo : List (ServiceMessage M F)) (c : ℕ)
    (hnum : num = done.length + 1 + mid.length + todo.length) :
    sortLoop num todo.length ⟨done.length, c, done ++ m :: (mid ++ todo)⟩ =
      ⟨done.length, c + todo.countP ServiceMessage.hasMsg, done ++ lastOr m todo :: (mid ++ todo.map cleared)⟩ := by
  induction todo generalizing m mid c with
  | nil => simp [sortLoop, lastOr]
  | cons x todo ih =>
    have hpos : num - (todo.length + 1) = done.length + (mid.length + 1) := by
      rw [hnum, List.length_cons]
      omega
    have hget : (done ++ m :: (mid ++ x :: todo))[done.length + (mid.length + 1)]? = some x := by
      rw [List.getElem?_append_right (Nat.le_add_right _ _), Nat.add_sub_cancel_left, List.getElem?_cons_succ,
        List.getElem?_append_right (Nat.le_refl _), Nat.sub_self, List.getElem?_cons_zero]
    have hnext := fun m c y => ih (m := m) (mid ++ [y]) c (by rw [hnum]; simp; omega)
    rw [List.length_cons, sortLoop, hpos, sortStep]
    simp only [hget]
    cases hx : x.hasMsg with
    | false =>
      have hne : done.length ≠ num := by omega
      rw [if_pos rfl, if_neg hne]
      simpa [lastOr, cleared, hx] using hnext m c x
    | true =>
      have hlt : ¬ done.length ≥ done.length + (mid.length + 1) := by omega
      rw [if_neg nofun, if_neg hlt]
      have hset : ((done ++ m :: (mid ++ x :: todo)).set done.length x).set (done.length + (mid.length + 1)) .zero =
          done ++ x :: (mid ++ [.zero] ++ todo) := by simp
      rw [hset]
      simpa [lastOr, cleared, hx, Nat.add_assoc, Nat.add_comm 1] using hnext x (c + 1) .zero

theorem sort_of_full (l : List (ServiceMessage M F)) (h : ∀ m ∈ l, m.hasMsg = true) :
    responseMessageSort l = ⟨l.length, l.length, l⟩ := by
  rw [responseMessageSort]
  simpa [sortLoop] using sortLoop_full [] l [] h (by simp)

theorem sort_of_empty (full todo : List (ServiceMessage M F)) (hfull : ∀ m ∈ full, m.hasMsg = true)
    (hm : m.hasMsg = false) :
    responseMessageSort (full ++ m :: todo) =
      ⟨full.length, full.length + todo.countP ServiceMessage.hasMsg, full ++ lastOr m todo :: todo.map cleared⟩ := by
  have hlen : (full ++ m :: todo).length = full.length + (todo.length + 1) := by simp
  have hpos : full.length + (todo.length + 1) - (todo.length + 1) = full.length := Nat.add_sub_cancel _ _
  have hstep : sortStep (full.length + (todo.length + 1)) full.length
      ⟨full.length + (todo.length + 1), full.length, full ++ m :: todo⟩ =
      ⟨full.length, full.length, full ++ m :: todo⟩ := by
    simp [sortStep, hm]
  have hskip := sortLoop_full [] full (m :: todo) hfull (by rw [List.length_nil, Nat.zero_add])
  rw [List.nil_append, List.length_cons, List.nil_append] at hskip
  rw [responseMessageSort, hlen]
  refine hskip.trans ?_
  rw [sortLoop, hpos, hstep]
  exact sortLoop_moved full [] todo full.length (by simp; omega)

/-! ## What the caller gets -/

/-- The responses are at the front of the array in the order of the subscribers, and each of them is handed to its own
handler to be freed, in that order. -/
structure Compacted (l arr : List (ServiceMessage M F)) (n : ℕ) : Prop where
  num : n = l.countP ServiceMessage.hasMsg
  front : arr.take n = l.filter ServiceMessage.hasMsg
  freed : (serviceProxyFreeResponseMessage arr n).map (fun call => (some call.1, some call.2)) =
    (l.filter ServiceMessage.hasMsg).map fun m => (m.ctx, m.msg)

/-- Every response came with a handler to free it. -/
def Freeable (l : List (ServiceMessage M F)) : Prop := ∀ m ∈ l, m.hasMsg = true → m.ctx.isSome = true

/-- The calls for a list of responses are one for each of them exactly if each has a handler. -/
theorem free_calls_iff (l : List (ServiceMessage M F)) (hl : ∀ m ∈ l, m.hasMsg = true) :
    (serviceProxyFreeResponseMessage l l.length).map (fun call => (some call.1, some call.2)) =
      l.map (fun m => (m.ctx, m.msg)) ↔ ∀ m ∈ l, m.ctx.isSome = true := by
  rw [serviceProxyFreeResponseMessage, List.take_length]
  constructor
  · intro h m hm
    have hmem : (m.ctx, m.msg) ∈ l.map fun m => (m.ctx, m.msg) := List.mem_map_of_mem hm
    rw [← h] at hmem
    obtain ⟨call, -, hcall⟩ := List.mem_map.mp hmem
    rw [← (Prod.mk.inj hcall).1]
    rfl
  · intro hctx
    induction l with
    | nil => rfl
    | cons m l ih =>
      obtain ⟨hm, hl⟩ := List.forall_mem_cons.mp hl
      obtain ⟨hfree, hctx⟩ := List.forall_mem_cons.mp hctx
      obtain ⟨msg, hmsg⟩ := Option.isSome_iff_exists.mp hm
      obtain ⟨freeHandler, hhandler⟩ := Option.isSome_iff_exists.mp hfree
      simpa [hmsg, hhandler] using ih hl hctx

theorem compacted_iff (l arr : List (ServiceMessage M F)) :
    Compacted l arr (l.countP ServiceMessage.hasMsg) ↔
      arr.take (l.countP ServiceMessage.hasMsg) = l.filter ServiceMessage.hasMsg ∧ Freeable l := by
  have hcalls := free_calls_iff (l.filter ServiceMessage.hasMsg) fun m hm => (List.mem_filter.mp hm).2
  have hfreeable : (∀ m ∈ l.filter ServiceMessage.hasMsg, m.ctx.isSome = true) ↔ Freeable l := by
    simp [Freeable, List.mem_filter]
  have hfree : ∀ h : arr.take (l.countP ServiceMessage.hasMsg) = l.filter ServiceMessage.hasMsg,
      serviceProxyFreeResponseMessage arr (l.countP ServiceMessage.hasMsg) =
        serviceProxyFreeResponseMessage (l.filter ServiceMessage.hasMsg) (l.filter ServiceMessage.hasMsg).length := by
    intro h
    rw [serviceProxyFreeResponseMessage, h, serviceProxyFreeResponseMessage, List.take_length]
  rw [hfreeable] at hcalls
  constructor
  · intro h
    exact ⟨h.front, hcalls.mp (hfree h.front ▸ h.freed)⟩
  · rintro ⟨hfront, hl⟩
    exact ⟨rfl, hfront, (hfree hfront).symm ▸ hcalls.mpr hl⟩

/-- At most one response is behind the first empty entry. -/
def OneBehind (l : List (ServiceMessage M F)) : Prop := (l.dropWhile ServiceMessage.hasMsg).countP ServiceMessage.hasMsg ≤ 1

theorem lastOr_of_single {todo : List (ServiceMessage M F)} (h : todo.countP ServiceMessage.hasMsg = 1) :
    [lastOr m todo] = todo.filter ServiceMessage.hasMsg := by
  induction todo generalizing m with
  | nil => cases h
  | cons x todo ih =>
    cases hx : x.hasMsg with
    | false => simpa [lastOr, hx] using ih (m := m) (by simpa [hx] using h)
    | true =>
      have hnone : ∀ y ∈ todo, ¬ y.hasMsg = true := by
        rw [← List.countP_eq_zero]
        simpa [hx] using h
      have hlast : lastOr x todo = x := by
        clear h ih
        induction todo with
        | nil => rfl
        | cons y todo ih =>
          obtain ⟨hy, hnone⟩ := List.forall_mem_cons.mp hnone
          simpa [lastOr, hy] using ih hnone
      have hnil : todo.filter ServiceMessage.hasMsg = [] := List.filter_eq_nil_iff.mpr hnone
      rw [List.filter_cons_of_pos hx, hnil]
      simpa [lastOr, hx] using hlast

/-- Either there is no empty entry, or there is a first one. -/
theorem split_cases (l : List (ServiceMessage M F)) :
    (∀ m ∈ l, m.hasMsg = true) ∧ l.dropWhile ServiceMessage.hasMsg = [] ∨
      ∃ full m todo, l = full ++ m :: todo ∧ (∀ m ∈ full, m.hasMsg = true) ∧ m.hasMsg = false ∧
        l.dropWhile ServiceMessage.hasMsg = m :: todo := by
  cases hdrop : l.dropWhile ServiceMessage.hasMsg with
  | nil =>
    have hsplit := List.takeWhile_append_dropWhile (p := ServiceMessage.hasMsg) (l := l)
    rw [hdrop, List.append_nil] at hsplit
    refine .inl ⟨?_, rfl⟩
    rw [← hsplit]
    exact List.all_eq_true.mp List.all_takeWhile
  | cons m todo =>
    have hhead := List.head_dropWhile_not ServiceMessage.hasMsg (l := l) (by simp [hdrop])
    have hsplit := List.takeWhile_append_dropWhile (p := ServiceMessage.hasMsg) (l := l)
    rw [hdrop] at hsplit
    refine .inr ⟨l.takeWhile ServiceMessage.hasMsg, m, todo, hsplit.symm, ?_, by simpa [hdrop] using hhead, rfl⟩
    exact List.all_eq_true.mp List.all_takeWhile

theorem countP_split (full todo : List (ServiceMessage M F)) (hfull : ∀ m ∈ full, m.hasMsg = true)
    (hm : m.hasMsg = false) :
    (full ++ m :: todo).countP ServiceMessage.hasMsg = full.length + todo.countP ServiceMessage.hasMsg := by
  rw [List.countP_append, List.countP_eq_length.mpr hfull, List.countP_cons_of_neg (by simp [hm])]

theorem sort_finalNum (l : List (ServiceMessage M F)) :
    (responseMessageSort l).finalNum = l.countP ServiceMessage.hasMsg := by
  rcases split_cases l with ⟨hfull, -⟩ | ⟨full, m, todo, rfl, hfull, hm, -⟩
  · rw [sort_of_full l hfull, List.countP_eq_length.mpr hfull]
  · rw [sort_of_empty full todo hfull hm, countP_split full todo hfull hm]

theorem sort_front_iff (l : List (ServiceMessage M F)) :
    (responseMessageSort l).resp.take (l.countP ServiceMessage.hasMsg) = l.filter ServiceMessage.hasMsg ↔
      OneBehind l := by
  rw [OneBehind]
  rcases split_cases l with ⟨hfull, hdrop⟩ | ⟨full, m, todo, rfl, hfull, hm, hdrop⟩
  · rw [hdrop, sort_of_full l hfull]
    refine iff_of_true ?_ (Nat.zero_le _)
    rw [List.countP_eq_length.mpr hfull, List.take_length, List.filter_eq_self.mpr hfull]
  · have hfilter : (full ++ m :: todo).filter ServiceMessage.hasMsg = full ++ todo.filter ServiceMessage.hasMsg := by
      rw [List.filter_append, List.filter_eq_self.mpr hfull, List.filter_cons_of_neg (by simp [hm])]
    have htake : (full ++ lastOr m todo :: todo.map cleared).take ((full ++ m :: todo).countP ServiceMessage.hasMsg) =
        full ++ (lastOr m todo :: todo.map cleared).take (todo.countP ServiceMessage.hasMsg) := by
      rw [countP_split full todo hfull hm, List.take_append, List.take_of_length_le (Nat.le_add_right _ _),
        Nat.add_sub_cancel_left]
    rw [hdrop, sort_of_empty full todo hfull hm, List.countP_cons_of_neg (by simp [hm])]
    constructor
    · intro hfront
      -- the entry behind the first empty one is empty, where a second response is to be
      by_contra hmore
      rw [hfilter, htake, List.append_cancel_left_eq] at hfront
      obtain ⟨c, hc⟩ : ∃ c, todo.countP ServiceMessage.hasMsg = c + 2 := ⟨_, (Nat.sub_add_cancel (by omega)).symm⟩
      rw [hc, List.take_succ_cons] at hfront
      cases todo with
      | nil => cases hc
      | cons x todo =>
        have hmem : cleared x ∈ (x :: todo).filter ServiceMessage.hasMsg := by
          rw [← hfront, List.map_cons, List.take_succ_cons]
          simp
        rw [List.mem_filter, cleared_hasMsg] at hmem
        cases hmem.2
    · intro hone
      rw [htake, hfilter]
      congr 1
      rcases Nat.le_one_iff_eq_zero_or_eq_one.mp hone with hzero | hsingle
      · rw [hzero, List.take_zero, List.filter_eq_nil_iff.mpr (List.countP_eq_zero.mp hzero)]
      · rw [hsingle, List.take_succ_cons, List.take_zero]
        exact lastOr_of_single hsingle

/-- The responses that `ServiceProxySendMessage` returns are complete, in order and all freed exactly when at most one
of them is behind the entry of a subscriber without a response and each came with a handler to free it. -/
theorem responses_compacted_iff (ctx : ServiceManagerContext H) (instanceId msgId : Int32) (calloc : Bool)
    (outcome : ℕ → Option (M × Option F)) :
    (∀ l arr n, answered ctx instanceId msgId calloc outcome = .ok l →
        sendForResponse ctx instanceId msgId calloc outcome = (.ok, some (arr, n)) → Compacted l arr n) ↔
      ∀ l, answered ctx instanceId msgId calloc outcome = .ok l → OneBehind l ∧ Freeable l := by
  unfold sendForResponse
  cases hl : answered ctx instanceId msgId calloc outcome with
  | error ret => exact iff_of_true nofun nofun
  | ok l =>
    have honly : (∀ l', Except.ok l = (Except.ok l' : Except IotcRet _) → OneBehind l' ∧ Freeable l') ↔
        OneBehind l ∧ Freeable l := ⟨fun h => h l rfl, fun h l' heq => by cases heq; exact h⟩
    rw [honly, ← sort_front_iff l, ← compacted_iff]
    dsimp only
    rw [sort_finalNum]
    by_cases hzero : l.countP ServiceMessage.hasMsg = 0
    · rw [if_pos hzero]
      have hnone := List.countP_eq_zero.mp hzero
      refine iff_of_true nofun ((compacted_iff l _).mpr ⟨?_, fun m hm hmsg => absurd hmsg (hnone m hm)⟩)
      rw [hzero, List.filter_eq_nil_iff.mpr hnone, List.take_zero]
    · rw [if_neg hzero]
      constructor
      · intro h
        exact h l _ _ rfl rfl
      · intro h l' arr n heq hret
        cases heq
        cases hret
        exact h

/-- Three services have subscribed to message 7 of service 1. -/
def threeSubscribers : ServiceManagerContext Unit :=
  ⟨[⟨1, 1, [⟨7, 3, [⟨2, ()⟩, ⟨3, ()⟩, ⟨4, ()⟩]⟩]⟩]⟩

/-- The first one has no response. -/
def lastTwo (i : ℕ) : Option (ℕ × Option Unit) := if i = 0 then none else some (i, some ())

theorem response_lost : ∃ l arr, answered threeSubscribers 1 7 true lastTwo = .ok l ∧
    sendForResponse threeSubscribers 1 7 true lastTwo = (.ok, some (arr, 2)) ∧
    serviceProxyFreeResponseMessage arr 2 = [((), 2)] ∧ ¬ Compacted l arr 2 := by
  refine ⟨[⟨2, 7, .response, none, none⟩, ⟨3, 7, .response, some 1, some ()⟩, ⟨4, 7, .response, some 2, some ()⟩],
    [⟨4, 7, .response, some 2, some ()⟩, .zero, .zero], by rfl, by rfl, by rfl, fun h => ?_⟩
  exact absurd h.front (by decide)

end

end IotConnect.Service
