import IotConnect.Endpoint.RetransAccounting

/-! # The lock of an endpoint

Every function takes the lock of the endpoint at most once at a time and gives it back at its exits, but for
`CoapClientInsertReq`: if the node cannot be allocated or the token not copied it returns with the lock taken, and no
later call obtains it. The number `reqCnt` of the outstanding requests is kept by all of them. -/
namespace IotConnect.Endpoint
open Memory Coap Trace Transport
set_option autoImplicit false

variable {H C α : Type}

/-! ## Calls -/

/-- The functions that set one field under the lock. -/
def setUnderLock (lock : Bool) (f : RetransEndpoint H C → RetransEndpoint H C) (s : RetransEndpoint H C) :
    IotcRet × RetransEndpoint H C :=
  if lock = false then (.errTimeout, s) else (.ok, f s)

def setClient (f : CoapEndpointClient C → CoapEndpointClient C) (s : RetransEndpoint H C) : RetransEndpoint H C :=
  { s with client := { s.client with client := f s.client.client } }

def coapClientSetTokenLen (lock : Bool) (tkl : Fin 9) : RetransEndpoint H C → IotcRet × RetransEndpoint H C :=
  setUnderLock lock (setClient fun cli => { cli with tkl := tkl })

def coapClientSetRespTimeout (lock : Bool) (ms : UInt32) : RetransEndpoint H C → IotcRet × RetransEndpoint H C :=
  setUnderLock lock (setClient fun cli => { cli with timeout := ms })

def coapClientAddDefaultRespHandler (lock : Bool) (handler : C) :
    RetransEndpoint H C → IotcRet × RetransEndpoint H C :=
  setUnderLock lock (setClient fun cli => { cli with defaultHandler := some handler })

def coapServerAddGlobalChecker (lock : Bool) (checker : CoapPacket → Bool) :
    RetransEndpoint H C → IotcRet × RetransEndpoint H C :=
  setUnderLock lock fun s => { s with server := { s.server with globalChecker := some checker } }

def coapServerAddDefaultReqHandler (lock : Bool) (handler : H) :
    RetransEndpoint H C → IotcRet × RetransEndpoint H C :=
  setUnderLock lock fun s => { s with server := { s.server with defaultHandler := some handler } }

/-- `CoapServerAddResource` behind the allocation of the node. -/
def coapServerAddResource (lock : Bool) (res : List (CoapResource H)) :
    RetransEndpoint H C → IotcRet × RetransEndpoint H C :=
  setUnderLock lock fun s => { s with server := { s.server with resList := s.server.resList ++ [res] } }

/-- `isRes` says which nodes have the pointer that is removed. -/
def coapServerRemoveResource (lock : Bool) (isRes : List (CoapResource H) → Bool) :
    RetransEndpoint H C → IotcRet × RetransEndpoint H C :=
  setUnderLock lock fun s =>
    { s with server := { s.server with resList := s.server.resList.filter fun res => !isRes res } }

/-! ## The lock -/

/-- An endpoint, and how often its lock was taken and given back. -/
structure LockedEndpoint (H C : Type) where
  state : RetransEndpoint H C
  acquired : ℕ
  released : ℕ

def LockedEndpoint.free (s : LockedEndpoint H C) : Bool := s.acquired = s.released

/-- `ENDPOINT_LOCK_RETURN`, the section `f` and `ENDPOINT_UNLOCK`. The lock is obtained unless it is still taken, or
another task has it for too long (`idle` is false). -/
def underLock (idle : Bool) (f : Bool → RetransEndpoint H C → α × RetransEndpoint H C) (s : LockedEndpoint H C) :
    α × LockedEndpoint H C :=
  let lock := idle && s.free
  let (ret, state) := f lock s.state
  (ret, ⟨state, s.acquired + lock.toNat, s.released + lock.toNat⟩)

def onClient (f : CoapEndpoint C → α × CoapEndpoint C) (s : RetransEndpoint H C) : α × RetransEndpoint H C :=
  let (ret, client) := f s.client
  (ret, { s with client := client })

def onRetrans (f : CoapEndpointRetrans → α × CoapEndpointRetrans) (s : RetransEndpoint H C) :
    α × RetransEndpoint H C :=
  let (ret, retrans) := f s.retrans
  (ret, { s with retrans := retrans })

def lockedGetMsgId (idle : Bool) : LockedEndpoint H C → UInt16 × LockedEndpoint H C :=
  underLock idle fun lock => onClient fun cli =>
    let (msgId, client) := getMsgId lock cli.client
    (msgId, { cli with client := client })

/-- The loop of `CoapClientRespTimeoutCheck`. -/
def lockedSweep (env : SweepEnv) : ℕ → ℕ → LockedEndpoint H C → LockedEndpoint H C
  | 0, _, s => s
  | fuel + 1, round, s =>
    let (again, s) := underLock (env.lock round) (fun lock => onClient (timeoutRound lock env.cur)) s
    if again then lockedSweep env fuel (round + 1) s else s

def lockedRespTimeoutCheck (env : SweepEnv) (s : LockedEndpoint H C) : LockedEndpoint H C :=
  lockedSweep env (s.state.client.client.reqList.length + 1) 0 s

/-- The exits of `CoapClientInsertReq` that give the lock back. -/
def insertUnlocks : IotcRet → Bool
  | .memErrMalloc => false
  | .errSecurecMemcpy => false
  | _ => true

/-- `CoapClientInsertReq` behind the sweep. -/
def lockedInsertReq (env : InsertEnv) (pkt : CoapPacket) (handler : C) (s : LockedEndpoint H C) : LockedEndpoint H C :=
  let lock := env.lock && s.free
  let (ret, client) :=
    insertReq { env with lock := lock } pkt.header.msgId pkt.token pkt.header.tkl.val handler s.state.client
  ⟨{ s.state with client := client }, s.acquired + lock.toNat, s.released + (lock && insertUnlocks ret).toNat⟩

def lockedAddPacket (env : RetransEnv) (sent : Sent) (pkt : CoapPacket) (raw : List UInt8) (addr : SocketAddr)
    (s : LockedEndpoint H C) : LockedEndpoint H C :=
  if raw = [] ∨ s.state.retrans.enabled = false then s
  else
    (underLock env.lock (fun lock => onRetrans (coapRetransAddPacket { env with lock := lock } sent pkt raw addr)) s).2

/-- `CoapEndpointSendPacket` -/
def lockedSendPacket (env : PacketEnv) (answers : Bool) (exchange : Exchange) (build : CoapBuildPacket)
    (s : LockedEndpoint H C) : IotcRet × CoapPacket × LockedEndpoint H C :=
  match env.buffer with
  | .error ret => (ret.val, CoapPacket.init, s)
  | .ok buf =>
    let (ret, pkt, buf) := coapUdpEncode build CoapPacket.init buf
    if ret ≠ .ok then (ret, pkt, s)
    else
      let (ret, buf) := env.transSessMsgSend buf
      if ret ≠ .ok then (ret, pkt, s)
      else
        (.ok, pkt,
          lockedAddPacket env.retrans ⟨exchange, answers, sentBytes buf⟩ pkt (sentBytes buf) exchange.addr s)

/-- `CoapClientSendReq` up to and with the sending. -/
def requestSent (env : SendEnv) (packet : PacketEnv) (param : CoapClientReqParam C) (addr : SocketAddr)
    (s : LockedEndpoint H C) : IotcRet × CoapPacket × LockedEndpoint H C :=
  let (msgId, s) := lockedGetMsgId env.msgIdLock s
  let build := reqPacket param msgId s.state.client.client.tkl env.random
  lockedSendPacket packet false (buildExchange build addr) build s

def lockedSendReq (env : SendEnv) (packet : PacketEnv) (param : CoapClientReqParam C) (addr : SocketAddr)
    (s : LockedEndpoint H C) : LockedEndpoint H C :=
  let (ret, pkt, s) := requestSent env packet param addr s
  if ret ≠ .ok then s
  else
    match param.respHandler with
    | none => s
    | some handler => lockedInsertReq env.insert pkt handler (lockedRespTimeoutCheck env.sweep s)

inductive EndpointOp (H C : Type)
  | setTokenLen (idle : Bool) (tkl : Fin 9)
  | setRespTimeout (idle : Bool) (ms : UInt32)
  | addDefaultRespHandler (idle : Bool) (handler : C)
  | recvResp (idle : Bool) (sweep : SweepEnv) (pkt : CoapPacket)
  | respTimeoutCheck (sweep : SweepEnv)
  | sendReq (env : SendEnv) (packet : PacketEnv) (param : CoapClientReqParam C) (addr : SocketAddr)
  | reqPrepare (idle : Bool)
  | reqCheck (idle : Bool) (cur : UInt32)
  | addGlobalChecker (idle : Bool) (checker : CoapPacket → Bool)
  | addDefaultReqHandler (idle : Bool) (handler : H)
  | addResource (malloc idle : Bool) (res : List (CoapResource H))
  | removeResource (idle : Bool) (isRes : List (CoapResource H) → Bool)
  | recvReq (idle : Bool) (pkt : CoapPacket) (raw : CoapRaw)
  | sendResp (packet : PacketEnv) (param : CoapServerRespParam) (req : Received)
  | retransEnable (idle : Bool) (maxBufSize : UInt32)
  | retransAdd (env : RetransEnv) (sent : Sent) (pkt : CoapPacket) (raw : List UInt8) (addr : SocketAddr)
  | retransPrepare (idle : Bool)
  | retransCheck (cur : UInt32)
  | retransDispatch (env : RetransEnv)

/-- A section that only reads. -/
def readUnderLock (idle : Bool) (s : LockedEndpoint H C) : LockedEndpoint H C :=
  (underLock idle (fun _ s => ((), s)) s).2

def lockedStep (s : LockedEndpoint H C) : EndpointOp H C → LockedEndpoint H C
  | .setTokenLen idle tkl => (underLock idle (fun lock => coapClientSetTokenLen lock tkl) s).2
  | .setRespTimeout idle ms => (underLock idle (fun lock => coapClientSetRespTimeout lock ms) s).2
  | .addDefaultRespHandler idle handler =>
    (underLock idle (fun lock => coapClientAddDefaultRespHandler lock handler) s).2
  | .recvResp idle sweep pkt =>
    lockedRespTimeoutCheck sweep
      (underLock idle (fun lock => onClient fun cli => ((), handleResp lock pkt cli)) s).2
  | .respTimeoutCheck sweep => lockedRespTimeoutCheck sweep s
  | .sendReq env packet param addr => lockedSendReq env packet param addr s
  | .reqPrepare idle => if s.state.client.client.reqList.isEmpty then s else readUnderLock idle s
  | .reqCheck idle cur => if cur = 0 ∨ s.state.client.client.reqList.isEmpty then s else readUnderLock idle s
  | .addGlobalChecker idle checker => (underLock idle (fun lock => coapServerAddGlobalChecker lock checker) s).2
  | .addDefaultReqHandler idle handler =>
    (underLock idle (fun lock => coapServerAddDefaultReqHandler lock handler) s).2
  | .addResource malloc idle res =>
    if res = [] ∨ malloc = false then s else (underLock idle (fun lock => coapServerAddResource lock res) s).2
  | .removeResource idle isRes => (underLock idle (fun lock => coapServerRemoveResource lock isRes) s).2
  | .recvReq idle pkt raw =>
    match coapUriString pkt raw with
    | .error _ => s
    | .ok _ =>
      (underLock idle (fun lock st => (coapEndpointServerRecvReqPacket lock st.server pkt raw, st)) s).2
  | .sendResp packet param req =>
    (lockedSendPacket packet true req.exchange (respPacket param req.pkt) s).2.2
  | .retransEnable idle maxBufSize =>
    if maxBufSize = 0 then s
    else (underLock idle (fun lock => onRetrans (coapEndpointRetransEnable lock maxBufSize)) s).2
  | .retransAdd env sent pkt raw addr => lockedAddPacket env sent pkt raw addr s
  | .retransPrepare idle => if s.state.retrans.retransList.isEmpty then s else readUnderLock idle s
  | .retransCheck cur => { s with state := { s.state with retrans := coapEndpointRetransCheck cur s.state.retrans } }
  | .retransDispatch env =>
    if s.state.retrans.retransList.isEmpty then s
    else
      (underLock env.lock (fun lock => onRetrans (coapEndpointRetransDispatch { env with lock := lock })) s).2

/-! ## Requests are counted -/

def CoapEndpointClient.Counted (cli : CoapEndpointClient C) : Prop := cli.reqCnt = cli.reqList.length

theorem timeoutScan_counted (cur timeout : UInt32) (l : List (CoapReqNode C)) (ret : Option (RespHandler C))
    {reqCnt k : ℕ} (h : reqCnt = l.length + k) :
    (timeoutScan cur timeout ret reqCnt l).2.1 = (timeoutScan cur timeout ret reqCnt l).2.2.length + k := by
  induction l generalizing ret reqCnt k with
  | nil => exact h
  | cons node l ih =>
    rw [List.length_cons] at h
    rw [timeoutScan]
    split_ifs
    · exact ih _ (by omega)
    · dsimp only
      rw [List.length_cons, Nat.add_assoc, Nat.add_comm 1 k]
      exact ih ret (by omega)

theorem timeoutRound_counted (lock : Bool) (cur : UInt32) {s : CoapEndpoint C} (h : s.client.Counted) :
    (timeoutRound lock cur s).2.client.Counted := by
  have hscan := @timeoutScan_counted C cur s.client.timeout s.client.reqList none s.client.reqCnt 0 h
  unfold timeoutRound getTimeoutRespHandler
  split_ifs
  · exact h
  · dsimp only
    split
    · exact hscan
    · exact hscan

theorem handleResp_counted (lock : Bool) (pkt : CoapPacket) {s : CoapEndpoint C} (h : s.client.Counted) :
    (handleResp lock pkt s).client.Counted := by
  unfold handleResp getRespHandler
  split_ifs
  · exact h
  cases hfind : s.client.reqList.find? (respMatches s.client.tkl pkt) with
  | none => exact h
  | some node =>
    have hlength := List.length_eraseP_of_mem (List.mem_of_find?_eq_some hfind) (List.find?_some hfind)
    unfold CoapEndpointClient.Counted at h ⊢
    dsimp only
    rw [hlength, h]

theorem getMsgId_counted (lock : Bool) {cli : CoapEndpointClient C} (h : cli.Counted) :
    (getMsgId lock cli).2.Counted := by
  unfold getMsgId
  split_ifs <;> exact h

theorem insertReq_counted (env : InsertEnv) (msgId : UInt16) (token : ℕ → UInt8) (tkl : ℕ) (handler : C)
    {s : CoapEndpoint C} (h : s.client.Counted) : (insertReq env msgId token tkl handler s).2.client.Counted := by
  unfold insertReq
  split_ifs
  · exact h
  · exact h
  · exact h
  · exact h
  · unfold CoapEndpointClient.Counted at h ⊢
    dsimp only
    rw [List.length_append, List.length_singleton, h]

/-! ## Balance -/

/-- The lock is given back as often as it was taken, and `reqCnt` is the length of the list. -/
structure LockedEndpoint.Balanced (s : LockedEndpoint H C) : Prop where
  lock : s.acquired = s.released
  counted : s.state.client.client.Counted

/-- What a section has to keep. -/
def Keeps (f : Bool → RetransEndpoint H C → α × RetransEndpoint H C) : Prop :=
  ∀ lock s, s.client.client.Counted → (f lock s).2.client.client.Counted

section
variable {s : LockedEndpoint H C} (h : s.Balanced)
include h

theorem balanced_underLock {f : Bool → RetransEndpoint H C → α × RetransEndpoint H C} (hf : Keeps f) (idle : Bool) :
    (underLock idle f s).2.Balanced := by
  refine ⟨?_, hf _ _ h.counted⟩
  unfold underLock
  dsimp only
  rw [h.lock]

theorem balanced_setUnderLock {f : Bool → RetransEndpoint H C → RetransEndpoint H C} (idle : Bool)
    (hf : ∀ lock s, (f lock s).client.client.reqCnt = s.client.client.reqCnt ∧
      (f lock s).client.client.reqList = s.client.client.reqList) :
    (underLock idle (fun lock => setUnderLock lock (f lock)) s).2.Balanced := by
  refine balanced_underLock h (fun lock st hst => ?_) idle
  unfold setUnderLock
  split_ifs
  · exact hst
  · unfold CoapEndpointClient.Counted at hst ⊢
    rw [(hf lock st).1, (hf lock st).2, hst]

theorem balanced_ite {t : LockedEndpoint H C} {p : Prop} [Decidable p] (ht : t.Balanced) :
    (if p then s else t).Balanced := by
  split_ifs
  · exact h
  · exact ht

theorem balanced_read (idle : Bool) : (readUnderLock idle s).Balanced :=
  balanced_underLock h (fun _ _ hst => hst) idle

theorem balanced_onRetrans {f : Bool → CoapEndpointRetrans → α × CoapEndpointRetrans} (idle : Bool) :
    (underLock idle (fun lock => onRetrans (f lock)) s).2.Balanced :=
  balanced_underLock h (fun _ _ hst => hst) idle

theorem balanced_sweep (env : SweepEnv) (fuel round : ℕ) : (lockedSweep env fuel round s).Balanced := by
  induction fuel generalizing round s with
  | zero => exact h
  | succ fuel ih =>
    have hround : (underLock (env.lock round) (fun lock => onClient (timeoutRound lock env.cur)) s).2.Balanced :=
      balanced_underLock h (fun lock _ hst => timeoutRound_counted lock env.cur hst) _
    rw [lockedSweep]
    dsimp only
    split_ifs
    · exact ih hround (round + 1)
    · exact hround

theorem balanced_addPacket (env : RetransEnv) (sent : Sent) (pkt : CoapPacket) (raw : List UInt8) (addr : SocketAddr) :
    (lockedAddPacket env sent pkt raw addr s).Balanced := by
  unfold lockedAddPacket
  split_ifs
  · exact h
  · exact balanced_onRetrans h _

theorem balanced_sendPacket (env : PacketEnv) (answers : Bool) (exchange : Exchange) (build : CoapBuildPacket) :
    (lockedSendPacket env answers exchange build s).2.2.Balanced := by
  unfold lockedSendPacket
  split
  · exact h
  dsimp only
  split_ifs
  · exact h
  · exact h
  · exact balanced_addPacket h _ _ _ _ _

theorem balanced_getMsgId (idle : Bool) : (lockedGetMsgId idle s).2.Balanced :=
  balanced_underLock h (fun lock _ hst => getMsgId_counted lock hst) idle

theorem balanced_requestSent (env : SendEnv) (packet : PacketEnv) (param : CoapClientReqParam C) (addr : SocketAddr) :
    (requestSent env packet param addr s).2.2.Balanced :=
  balanced_sendPacket (balanced_getMsgId h env.msgIdLock) _ _ _ _

/-- The insertion does not end after the lock was taken for want of memory or for a token that is too long. -/
def InsertsWell (env : InsertEnv) (pkt : CoapPacket) (s : LockedEndpoint H C) : Prop :=
  env.lock = true → s.state.client.client.reqCnt < coapEndpointClientReqMaxCnt →
    env.malloc = true ∧ pkt.header.tkl.val ≤ coapTokenMaxLen

theorem balanced_insertReq_iff (env : InsertEnv) (pkt : CoapPacket) (handler : C) :
    (lockedInsertReq env pkt handler s).Balanced ↔ InsertsWell env pkt s := by
  have hfree : (env.lock && s.free) = env.lock := by
    rw [LockedEndpoint.free, decide_eq_true h.lock, Bool.and_true]
  have hcounted := fun env => insertReq_counted env pkt.header.msgId pkt.token pkt.header.tkl.val handler h.counted
  have hbalanced : (lockedInsertReq env pkt handler s).Balanced ↔
      s.acquired + env.lock.toNat = s.released + (env.lock && insertUnlocks
        (insertReq env pkt.header.msgId pkt.token pkt.header.tkl.val handler s.state.client).1).toNat := by
    unfold lockedInsertReq
    dsimp only
    rw [hfree]
    exact ⟨fun hs => hs.lock, fun hlock => ⟨hlock, hcounted _⟩⟩
  rw [hbalanced, h.lock, Nat.add_left_cancel_iff]
  unfold InsertsWell insertReq
  cases hlock : env.lock with
  | false => simp
  | true =>
    rw [if_neg (by decide), Bool.true_and]
    by_cases hfull : coapEndpointClientReqMaxCnt ≤ s.state.client.client.reqCnt
    · rw [if_pos hfull]
      exact ⟨fun _ _ hlt => absurd hfull (Nat.not_le.mpr hlt), fun _ => rfl⟩
    rw [if_neg hfull]
    by_cases hmalloc : env.malloc = false
    · rw [if_pos hmalloc, hmalloc]
      exact ⟨fun hone => absurd hone Nat.one_ne_zero, fun hwell => absurd (hwell rfl (Nat.not_le.mp hfull)).1 (by decide)⟩
    rw [if_neg hmalloc]
    by_cases htkl : coapTokenMaxLen < pkt.header.tkl.val
    · rw [if_pos htkl]
      exact ⟨fun hone => absurd hone Nat.one_ne_zero,
        fun hwell => absurd (hwell rfl (Nat.not_le.mp hfull)).2 (Nat.not_le.mpr htkl)⟩
    rw [if_neg htkl]
    exact ⟨fun _ _ _ => ⟨Bool.not_eq_false _ ▸ hmalloc, Nat.not_lt.mp htkl⟩, fun _ => rfl⟩

/-! ## With the lock free, the calls are those of `Retrans` -/

theorem underLock_eq (f : Bool → RetransEndpoint H C → α × RetransEndpoint H C) (idle : Bool) :
    (underLock idle f s).1 = (f idle s.state).1 ∧ (underLock idle f s).2.state = (f idle s.state).2 := by
  have hfree : (idle && s.free) = idle := by
    rw [LockedEndpoint.free, decide_eq_true h.lock, Bool.and_true]
  unfold underLock
  dsimp only
  rw [hfree]
  exact ⟨rfl, rfl⟩

theorem lockedSweep_state (env : SweepEnv) (fuel round : ℕ) : (lockedSweep env fuel round s).state =
    { s.state with client := timeoutLoop env.lock env.cur fuel round s.state.client } := by
  induction fuel generalizing round s with
  | zero => rfl
  | succ fuel ih =>
    have hround : (underLock (env.lock round) (fun lock => onClient (timeoutRound lock env.cur)) s).2.Balanced :=
      balanced_underLock h (fun lock _ hst => timeoutRound_counted lock env.cur hst) _
    obtain ⟨hagain, hstate⟩ := underLock_eq h (fun lock => onClient (timeoutRound lock env.cur)) (env.lock round)
    rw [lockedSweep, timeoutLoop]
    dsimp only
    cases hmore : (timeoutRound (env.lock round) env.cur s.state.client).1 with
    | false =>
      rw [if_neg (by rw [hagain]; exact Bool.not_eq_true _ ▸ hmore)]
      exact hstate
    | true =>
      rw [if_pos (hagain.trans hmore), ih hround, hstate]
      rfl

theorem lockedAddPacket_state (env : RetransEnv) (sent : Sent) (pkt : CoapPacket) (raw : List UInt8)
    (addr : SocketAddr) : (lockedAddPacket env sent pkt raw addr s).state =
      { s.state with retrans := (coapRetransAddPacket env sent pkt raw addr s.state.retrans).2 } := by
  unfold lockedAddPacket
  split_ifs with hnone
  · unfold coapRetransAddPacket
    rcases hnone with hraw | hdisabled
    · rw [if_pos hraw]
    · rw [if_pos hdisabled]
      split_ifs <;> rfl
  · exact (underLock_eq h _ env.lock).2

theorem lockedSendPacket_eq (env : PacketEnv) (answers : Bool) (exchange : Exchange) (build : CoapBuildPacket) :
    (lockedSendPacket env answers exchange build s).1 =
        (coapEndpointSendPacket env answers exchange build s.state.retrans).1 ∧
      (lockedSendPacket env answers exchange build s).2.1 =
        (coapEndpointSendPacket env answers exchange build s.state.retrans).2.1 ∧
      (lockedSendPacket env answers exchange build s).2.2.state = { s.state with
        retrans := (coapEndpointSendPacket env answers exchange build s.state.retrans).2.2 } := by
  unfold lockedSendPacket coapEndpointSendPacket
  cases env.buffer with
  | error ret => exact ⟨rfl, rfl, rfl⟩
  | ok buf =>
    dsimp only
    split_ifs
    · exact ⟨rfl, rfl, rfl⟩
    · exact ⟨rfl, rfl, rfl⟩
    · exact ⟨rfl, rfl, lockedAddPacket_state h _ _ _ _ _⟩

theorem lockedInsertReq_state (env : InsertEnv) (pkt : CoapPacket) (handler : C) :
    (lockedInsertReq env pkt handler s).state = { s.state with client :=
      (insertReq env pkt.header.msgId pkt.token pkt.header.tkl.val handler s.state.client).2 } := by
  unfold lockedInsertReq
  rw [LockedEndpoint.free, decide_eq_true h.lock, Bool.and_true]

theorem lockedGetMsgId_eq (idle : Bool) :
    (lockedGetMsgId idle s).1 = (getMsgId idle s.state.client.client).1 ∧
      (lockedGetMsgId idle s).2.state = { s.state with
        client := { s.state.client with client := (getMsgId idle s.state.client.client).2 } } :=
  underLock_eq h _ idle

theorem lockedSendReq_state (env : SendEnv) (packet : PacketEnv) (param : CoapClientReqParam C) (addr : SocketAddr) :
    (lockedSendReq env packet param addr s).state = (endpointSendReq env packet param addr s.state).2 := by
  obtain ⟨hid, hstate⟩ := lockedGetMsgId_eq h env.msgIdLock
  have hsent := balanced_requestSent h env packet param addr
  have hpacket := lockedSendPacket_eq (balanced_getMsgId h env.msgIdLock) packet false
  unfold lockedSendReq endpointSendReq coapClientSendReq
  unfold requestSent at hsent ⊢
  dsimp only at hsent ⊢
  rw [hid, hstate] at hsent ⊢
  rw [hstate] at hpacket
  dsimp only at hsent hpacket ⊢
  generalize reqPacket param _ _ _ = build at *
  obtain ⟨hret, hpkt, hsend⟩ := hpacket (buildExchange build addr) build
  rw [hret, hpkt]
  split_ifs
  · exact hsend
  cases param.respHandler with
  | none => exact hsend
  | some handler =>
    have hsweep := balanced_sweep hsent env.sweep
    dsimp only
    unfold lockedRespTimeoutCheck
    rw [lockedInsertReq_state (hsweep _ _), lockedSweep_state hsent, hsend]
    rfl

end

/-- No call inserts a request and fails after it took the lock. -/
def NoneStuck (s : LockedEndpoint H C) : EndpointOp H C → Prop
  | .sendReq env packet param addr =>
    let (ret, pkt, s) := requestSent env packet param addr s
    ret = .ok → param.respHandler.isSome = true → InsertsWell env.insert pkt (lockedRespTimeoutCheck env.sweep s)
  | _ => True

theorem balanced_sendReq_iff {s : LockedEndpoint H C} (h : s.Balanced) (env : SendEnv) (packet : PacketEnv)
    (param : CoapClientReqParam C) (addr : SocketAddr) :
    (lockedSendReq env packet param addr s).Balanced ↔ NoneStuck s (.sendReq env packet param addr) := by
  have hsent := balanced_requestSent h env packet param addr
  unfold lockedSendReq NoneStuck
  dsimp only
  by_cases hret : (requestSent env packet param addr s).1 = .ok
  · rw [if_neg (not_not.mpr hret)]
    cases hhandler : param.respHandler with
    | none => simp [hsent]
    | some handler =>
      have hinsert := balanced_insertReq_iff
        (balanced_sweep hsent env.sweep _ _ : (lockedRespTimeoutCheck env.sweep _).Balanced) env.insert
        (requestSent env packet param addr s).2.1 handler
      exact hinsert.trans ⟨fun hwell _ _ => hwell, fun hwell => hwell hret rfl⟩
  · rw [if_pos hret]
    exact ⟨fun _ hok => absurd hok hret, fun _ => hsent⟩

theorem balanced_step_iff {s : LockedEndpoint H C} (h : s.Balanced) (op : EndpointOp H C) :
    (lockedStep s op).Balanced ↔ NoneStuck s op := by
  cases op with
  | sendReq env packet param addr => exact balanced_sendReq_iff h env packet param addr
  | setTokenLen idle tkl => exact iff_of_true (balanced_setUnderLock h idle fun _ _ => ⟨rfl, rfl⟩) trivial
  | setRespTimeout idle ms => exact iff_of_true (balanced_setUnderLock h idle fun _ _ => ⟨rfl, rfl⟩) trivial
  | addDefaultRespHandler idle handler =>
    exact iff_of_true (balanced_setUnderLock h idle fun _ _ => ⟨rfl, rfl⟩) trivial
  | recvResp idle sweep pkt =>
    exact iff_of_true (balanced_sweep (balanced_underLock h (fun lock _ hst => handleResp_counted lock pkt hst) idle)
      sweep _ _) trivial
  | respTimeoutCheck sweep => exact iff_of_true (balanced_sweep h sweep _ _) trivial
  | reqPrepare idle => exact iff_of_true (balanced_ite h (balanced_read h idle)) trivial
  | reqCheck idle cur => exact iff_of_true (balanced_ite h (balanced_read h idle)) trivial
  | addGlobalChecker idle checker =>
    exact iff_of_true (balanced_setUnderLock h idle fun _ _ => ⟨rfl, rfl⟩) trivial
  | addDefaultReqHandler idle handler =>
    exact iff_of_true (balanced_setUnderLock h idle fun _ _ => ⟨rfl, rfl⟩) trivial
  | addResource malloc idle res =>
    exact iff_of_true (balanced_ite h (balanced_setUnderLock h idle fun _ _ => ⟨rfl, rfl⟩)) trivial
  | removeResource idle isRes => exact iff_of_true (balanced_setUnderLock h idle fun _ _ => ⟨rfl, rfl⟩) trivial
  | recvReq idle pkt raw =>
    refine iff_of_true ?_ trivial
    unfold lockedStep
    dsimp only
    split
    · exact h
    · exact balanced_underLock h (fun _ _ hst => hst) idle
  | sendResp packet param req => exact iff_of_true (balanced_sendPacket h packet _ _ _) trivial
  | retransEnable idle maxBufSize => exact iff_of_true (balanced_ite h (balanced_onRetrans h idle)) trivial
  | retransAdd env sent pkt raw addr => exact iff_of_true (balanced_addPacket h env sent pkt raw addr) trivial
  | retransPrepare idle => exact iff_of_true (balanced_ite h (balanced_read h idle)) trivial
  | retransCheck cur => exact iff_of_true ⟨h.lock, h.counted⟩ trivial
  | retransDispatch env => exact iff_of_true (balanced_ite h (balanced_onRetrans h env.lock)) trivial

def LockedEndpoint.start (server : CoapEndpointServer H) (msgId : UInt16) : LockedEndpoint H C :=
  ⟨⟨server, .start (coapEndpointClientInit msgId none), .new⟩, 0, 0⟩

/-- For every sequence of calls on a new endpoint: after each of them the lock was given back as often as it was taken,
so that the next call obtains it, and `reqCnt` is the number of requests, exactly if no insertion fails after it took
the lock. -/
theorem balanced_along_iff (server : CoapEndpointServer H) (msgId : UInt16) (ops : List (EndpointOp H C)) :
    Along lockedStep (fun s op => (lockedStep s op).Balanced) (.start server msgId) ops ↔
      Along lockedStep NoneStuck (.start server msgId) ops := by
  have hstart : LockedEndpoint.Balanced (.start server msgId : LockedEndpoint H C) := ⟨rfl, rfl⟩
  exact along_step_iff (fun s op hop (h : s.Balanced) => (balanced_step_iff h op).mpr hop)
    (fun _ op h => balanced_step_iff h op) hstart ops

/-- A request whose node cannot be allocated. -/
def stuckRequest : EndpointOp Unit Unit :=
  .sendReq ⟨true, fun _ => 0, fun _ _ => (.ok, .init), ⟨0, fun _ => true⟩, ⟨true, false, 0⟩⟩
    ⟨.ok ⟨fun _ => 0, 64, 0⟩, fun buf => (.ok, buf), ⟨true, true, 0, coapEndpointRetransDefaultCheckFunc⟩⟩
    ⟨0, 1, [], none, none, some (), 0⟩ ⟨0, 0⟩

/-- The call behind it does not obtain the lock, so it leaves the timeout as it was. -/
theorem stuck_request_not_balanced :
    ¬ Along lockedStep (fun s op => (lockedStep s op).Balanced) (.start ⟨[], none, none⟩ 0) [stuckRequest] ∧
      (run lockedStep (.start ⟨[], none, none⟩ 0)
        [stuckRequest, .setRespTimeout true 7]).state.client.client.timeout = coapClientDefaultRespTimeout := by
  refine ⟨fun h => absurd h.1.lock ?_, ?_⟩
  · decide
  · decide

end IotConnect.Endpoint
