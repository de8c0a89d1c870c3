import IotConnect.Coap.Packet

/-! # The CoAP client of an endpoint (`coap_endpoint_client.c`)

The client keeps a list of the requests it waits for. A response removes the request it answers, a
sweep removes the requests that waited too long, and sending a request or receiving a response sweeps
as well. The list is only touched under the lock of the endpoint, a handler is only called without it.

`id` of a request and `log` of the endpoint are not in the code: requests are numbered as they are
inserted, and the log, newest entry first, has the requests inserted, the responses handled and the
handlers called. -/
namespace IotConnect.Endpoint
open Memory Coap
set_option autoImplicit false

variable {H : Type}

def coapClientDefaultRespTimeout : UInt32 := 30 * 1000
def coapEndpointClientReqMaxCnt : ℕ := 255

structure CoapReqNode (H : Type) where
  time : UInt32
  msgId : UInt16
  token : ℕ → UInt8
  respHandler : H
  id : ℕ

/-- `tkl` is bounded by `COAP_TOKEN_MAX_LEN`, which `CoapClientSetTokenLen` checks. -/
structure CoapEndpointClient (H : Type) where
  tkl : Fin 9
  msgId : UInt16
  timeout : UInt32
  reqCnt : ℕ
  reqList : List (CoapReqNode H)
  defaultHandler : Option H

def coapEndpointClientInit (msgId : UInt16) (defaultHandler : Option H) : CoapEndpointClient H where
  tkl := 8
  msgId := msgId
  timeout := coapClientDefaultRespTimeout
  reqCnt := 0
  reqList := []
  defaultHandler := defaultHandler

/-- A handler that a scan of the list returns. The code has the function pointer only; `owner` is the
request it was registered for, `none` for the default handler. -/
structure RespHandler (H : Type) where
  fn : H
  owner : Option ℕ

def CoapReqNode.handler (node : CoapReqNode H) : RespHandler H := ⟨node.respHandler, some node.id⟩

/-! ## Scans of the list -/

def respMatches (tkl : Fin 9) (pkt : CoapPacket) (node : CoapReqNode H) : Bool :=
  pkt.header.msgId = node.msgId ∧
    -- the token counts unless the client uses none
    (tkl.val = 0 ∨ tkl.val = pkt.header.tkl.val ∧
      load pkt.token 0 pkt.header.tkl.val = load node.token 0 pkt.header.tkl.val)

def getRespHandler (lock : Bool) (cli : CoapEndpointClient H) (pkt : CoapPacket) :
    Option (RespHandler H) × CoapEndpointClient H :=
  if lock = false then (none, cli)
  else
    match cli.reqList.find? (respMatches cli.tkl pkt) with
    | some node => (some node.handler, { cli with
        reqList := cli.reqList.eraseP (respMatches cli.tkl pkt), reqCnt := cli.reqCnt - 1 })
    | none => (cli.defaultHandler.map (⟨·, none⟩), cli)

def respExpired (cur timeout : UInt32) (node : CoapReqNode H) : Bool :=
  timeout < utilsDeltaTime cur node.time

/-- The loop of `GetTimeoutRespHandler`: each expired node overwrites the handler to return. -/
def timeoutScan (cur timeout : UInt32) : Option (RespHandler H) → ℕ → List (CoapReqNode H) →
    Option (RespHandler H) × ℕ × List (CoapReqNode H)
  | ret, reqCnt, [] => (ret, reqCnt, [])
  | ret, reqCnt, node :: l =>
    if respExpired cur timeout node then timeoutScan cur timeout (some node.handler) (reqCnt - 1) l
    else
      let (ret, reqCnt, l) := timeoutScan cur timeout ret reqCnt l
      (ret, reqCnt, node :: l)

def getTimeoutRespHandler (lock : Bool) (cur : UInt32) (cli : CoapEndpointClient H) :
    Option (RespHandler H) × CoapEndpointClient H :=
  if lock = false then (none, cli)
  else
    let (ret, reqCnt, reqList) := timeoutScan cur cli.timeout none cli.reqCnt cli.reqList
    (ret, { cli with reqCnt := reqCnt, reqList := reqList })

/-! ## The endpoint and its history -/

inductive Entry (H : Type)
  | inserted (node : CoapReqNode H)
  | response (pkt : CoapPacket) (handler : Option (RespHandler H))
  | timeout (handler : RespHandler H)

structure CoapEndpoint (H : Type) where
  client : CoapEndpointClient H
  log : List (Entry H)
  serial : ℕ

def CoapEndpoint.start (cli : CoapEndpointClient H) : CoapEndpoint H := ⟨cli, [], 0⟩

/-- The part of `CoapEndpointClientRecvRespPacket` up to and with the call of the handler. -/
def handleResp (lock : Bool) (pkt : CoapPacket) (s : CoapEndpoint H) : CoapEndpoint H :=
  let (handler, cli) := getRespHandler lock s.client pkt
  { s with client := cli, log := .response pkt handler :: s.log }

/-- One round of `CoapClientRespTimeoutCheck`; the flag says that a handler was called. -/
def timeoutRound (lock : Bool) (cur : UInt32) (s : CoapEndpoint H) : Bool × CoapEndpoint H :=
  let (handler, cli) := getTimeoutRespHandler lock cur s.client
  match handler with
  | some h => (true, { s with client := cli, log := .timeout h :: s.log })
  | none => (false, { s with client := cli })

/-- The do-while loop of `CoapClientRespTimeoutCheck`, `lock round` being the outcome of the lock. -/
def timeoutLoop (lock : ℕ → Bool) (cur : UInt32) : ℕ → ℕ → CoapEndpoint H → CoapEndpoint H
  | 0, _, s => s
  | fuel + 1, round, s =>
    let (again, s) := timeoutRound (lock round) cur s
    if again then timeoutLoop lock cur fuel (round + 1) s else s

/-- A reading of the clock and the outcomes of the lock in the rounds of one sweep. -/
structure SweepEnv where
  cur : UInt32
  lock : ℕ → Bool

/-- A round that calls a handler removes a request, so the rounds are at most one more than those. -/
def coapClientRespTimeoutCheck (env : SweepEnv) (s : CoapEndpoint H) : CoapEndpoint H :=
  timeoutLoop env.lock env.cur (s.client.reqList.length + 1) 0 s

theorem timeoutScan_of_none {cur timeout : UInt32} {l : List (CoapReqNode H)}
    (h : ∀ node ∈ l, respExpired cur timeout node = false) (ret : Option (RespHandler H)) (reqCnt : ℕ) :
    timeoutScan cur timeout ret reqCnt l = (ret, reqCnt, l) := by
  induction l with
  | nil => rfl
  | cons node l ih =>
    rw [timeoutScan, h node List.mem_cons_self, if_neg Bool.false_ne_true,
      ih fun m hm => h m (List.mem_cons_of_mem _ hm)]

theorem timeoutScan_handler (cur timeout : UInt32) (ret : Option (RespHandler H)) (reqCnt : ℕ)
    (l : List (CoapReqNode H)) : (timeoutScan cur timeout ret reqCnt l).1 =
      ((l.filter (respExpired cur timeout)).getLast?.map CoapReqNode.handler).or ret := by
  induction l generalizing ret reqCnt with
  | nil => rfl
  | cons node l ih =>
    rw [timeoutScan]
    split_ifs with hexpired
    · rw [ih, List.filter_cons_of_pos hexpired]
      cases hlast : l.filter (respExpired cur timeout) with
      | nil => rfl
      | cons m rest => simp [List.getLast?_cons]
    · rw [List.filter_cons_of_neg hexpired]
      exact ih ret reqCnt

theorem timeoutScan_kept (cur timeout : UInt32) (ret : Option (RespHandler H)) (reqCnt : ℕ)
    (l : List (CoapReqNode H)) : (timeoutScan cur timeout ret reqCnt l).2.2 =
      l.filter (fun node => !respExpired cur timeout node) := by
  induction l generalizing ret reqCnt with
  | nil => rfl
  | cons node l ih =>
    rw [timeoutScan]
    split_ifs with hexpired
    · rw [ih, List.filter_cons_of_neg (by simp [hexpired])]
    · rw [List.filter_cons_of_pos (by simp [hexpired])]
      exact congrArg (node :: ·) (ih ret reqCnt)

/-- The request whose handler a sweep calls: the last expired one, unless the lock is not obtained. -/
def SweepEnv.request (env : SweepEnv) (cli : CoapEndpointClient H) : Option (CoapReqNode H) :=
  if env.lock 0 = false then none else (cli.reqList.filter (respExpired env.cur cli.timeout)).getLast?

theorem SweepEnv.request_mem {env : SweepEnv} {cli : CoapEndpointClient H} {node : CoapReqNode H}
    (h : env.request cli = some node) : node ∈ cli.reqList := by
  unfold SweepEnv.request at h
  split_ifs at h
  exact (List.mem_filter.mp (List.mem_of_getLast? h)).1

theorem getTimeoutRespHandler_request (env : SweepEnv) (cli : CoapEndpointClient H) :
    (getTimeoutRespHandler (env.lock 0) env.cur cli).1 = (env.request cli).map CoapReqNode.handler := by
  unfold getTimeoutRespHandler SweepEnv.request
  by_cases hlock : env.lock 0 = false
  · rw [if_pos hlock, if_pos hlock]
    rfl
  · rw [if_neg hlock, if_neg hlock]
    dsimp only
    rw [timeoutScan_handler, Option.or_none]

theorem getTimeoutRespHandler_of_none {env : SweepEnv} {cli : CoapEndpointClient H} (h : env.request cli = none) :
    (getTimeoutRespHandler (env.lock 0) env.cur cli).2 = cli := by
  unfold getTimeoutRespHandler
  unfold SweepEnv.request at h
  by_cases hlock : env.lock 0 = false
  · rw [if_pos hlock]
  · rw [if_neg hlock] at h ⊢
    rw [List.getLast?_eq_none_iff, List.filter_eq_nil_iff] at h
    rw [timeoutScan_of_none fun node hnode => by simpa using h node hnode]

theorem getTimeoutRespHandler_again {lock lock' : Bool} (hlock : lock = true) (cur : UInt32)
    (cli : CoapEndpointClient H) :
    getTimeoutRespHandler lock' cur (getTimeoutRespHandler lock cur cli).2 =
      (none, (getTimeoutRespHandler lock cur cli).2) := by
  subst hlock
  unfold getTimeoutRespHandler
  cases lock' with
  | false => rfl
  | true =>
    rw [if_neg (by decide), if_neg (by decide)]
    dsimp only
    rw [timeoutScan_kept, timeoutScan_of_none]
    intro node hnode
    simpa using (List.mem_filter.mp hnode).2

def coapEndpointClientRecvRespPacket (lock : Bool) (env : SweepEnv) (pkt : CoapPacket) (s : CoapEndpoint H) :
    IotcRet × CoapEndpoint H :=
  (.ok, coapClientRespTimeoutCheck env (handleResp lock pkt s))

/-! ## Sending -/

structure InsertEnv where
  lock : Bool
  malloc : Bool
  now : UInt32

/-- The part of `CoapClientInsertReq` behind the sweep. -/
def insertReq (env : InsertEnv) (msgId : UInt16) (token : ℕ → UInt8) (tkl : ℕ) (handler : H)
    (s : CoapEndpoint H) : IotcRet × CoapEndpoint H :=
  if env.lock = false then (.errTimeout, s)
  else if coapEndpointClientReqMaxCnt ≤ s.client.reqCnt then (.coapEndpointReqListFull, s)
  -- the next two exits keep the lock; what that does to later calls is in the outcomes of their locks
  else if env.malloc = false then (.memErrMalloc, s)
  else if coapTokenMaxLen < tkl then (.errSecurecMemcpy, s)
  else
    let newNode : CoapReqNode H := ⟨env.now, msgId, store (fun _ => 0) 0 (load token 0 tkl), handler, s.serial⟩
    (.ok, { client := { s.client with reqList := s.client.reqList ++ [newNode], reqCnt := s.client.reqCnt + 1 }
            log := .inserted newNode :: s.log
            serial := s.serial + 1 })

def coapClientInsertReq (sweep : SweepEnv) (env : InsertEnv) (msgId : UInt16) (token : ℕ → UInt8) (tkl : ℕ)
    (handler : H) (s : CoapEndpoint H) : IotcRet × CoapEndpoint H :=
  insertReq env msgId token tkl handler (coapClientRespTimeoutCheck sweep s)

def getMsgId (lock : Bool) (cli : CoapEndpointClient H) : UInt16 × CoapEndpointClient H :=
  if lock = false then (0, cli) else (cli.msgId, { cli with msgId := cli.msgId + 1 })

structure CoapClientReqParam (H : Type) where
  type : UInt8
  code : UInt8
  options : List BuildOption
  payload : Option BuildData
  payloadBuilder : Option (CoapBuffer → Int × List UInt8)
  respHandler : Option H
  preSize : ℕ

/-- What the rest of the system does while a request is sent: `random` is what `SecurityRandom` leaves
in the token, `sendPacket` is `CoapEndpointSendPacket`, with the packet the encoder built. -/
structure SendEnv where
  msgIdLock : Bool
  random : ℕ → UInt8
  sendPacket : CoapBuildPacket → ℕ → IotcRet × CoapPacket
  sweep : SweepEnv
  insert : InsertEnv

def reqPacket (param : CoapClientReqParam H) (msgId : UInt16) (tkl : Fin 9) (random : ℕ → UInt8) :
    CoapBuildPacket where
  header := ⟨0, Fin.ofNat 4 param.type.toNat, ⟨tkl.val, by omega⟩, param.code, msgId⟩
  token := if tkl.val = 0 then fun _ => 0 else store (fun _ => 0) 0 (load random 0 tkl.val)
  options := param.options
  payload := param.payload
  buildFunc := param.payloadBuilder

def coapClientSendReq (env : SendEnv) (param : CoapClientReqParam H) (s : CoapEndpoint H) : IotcRet × CoapEndpoint H :=
  let (msgId, cli) := getMsgId env.msgIdLock s.client
  let s := { s with client := cli }
  let (ret, pkt) := env.sendPacket (reqPacket param msgId cli.tkl env.random) param.preSize
  if ret ≠ .ok then (ret, s)
  else
    match param.respHandler with
    | none => (.ok, s)
    | some handler =>
      -- a request that could not be recorded is sent all the same
      (.ok, (coapClientInsertReq env.sweep env.insert pkt.header.msgId pkt.token pkt.header.tkl.val handler s).2)

end IotConnect.Endpoint
