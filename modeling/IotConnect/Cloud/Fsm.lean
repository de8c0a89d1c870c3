import IotConnect.Cloud.Backoff

/-! # The state machine of the cloud client (`m2m_cloud_fsm.c`, `utils_fsm.c`, `m2m_cloud_link.c`)

A timer runs the handler of the current state. Responses, the sweep for requests that waited too long, link
errors and other timers switch the state in between, and while a handler sends its request. The requests
are kept by the CoAP endpoint. -/
namespace IotConnect.Cloud
open Bytes Coap Endpoint
set_option autoImplicit false

variable (J : JsonAdapter) (K : (password salt : List UInt8) → List UInt8)

/-! ## The link -/

def m2mCloudLinkClose (c : CloudContext) : CloudContext := { c with link := false }

def cloudSessLinkErrorCallback (c : CloudContext) : CloudContext :=
  let c := m2mCloudDisableHeartbeat (m2mCloudLinkClose c)
  { c with token := m2mCloudDisableTokenInfo c.token }.changeFsmTo .connect

/-! ## Response handlers -/

/-- The state in which a handler takes responses; `none` for handlers that do not look at the state. -/
def CloudHandler.waitState : CloudHandler → Option FsmState
  | .pskReg => some .pskWaitResp
  | .registerReg => some .registerWaitResp
  | .login => some .loginWaitResp
  | .revoke => none
  | .authCodeReg => some .authCodeWaitResp
  | .devInfoSync => some .devInfoSyncWaitResp
  | .devId => some .getAuthCodeWaitResp
  | .ecoDevInfo => some .ecoDevInfoSyncWaitResp
  | .ecoDevState => some .ecoStateSyncWaitResp
  | .heartbeat => none
  | .tokenRefresh => none

/-- The handlers that wait in a state of the machine begin alike: they drop what comes in another state and
go back to connecting on a timeout. -/
def guarded (h : CloudHandler) (reply : Reply) (c : CloudContext) (body : List UInt8 → CloudContext) : CloudContext :=
  if some c.cur ≠ h.waitState then c
  else
    match reply with
    | .timeout => c.changeFsmTo .connect
    | .resp payload => body payload

def m2mCloudPskRegRespHandler (env : ResponseEnv) (reply : Reply) (c : CloudContext) : CloudContext :=
  guarded .pskReg reply c fun payload =>
    let (ret, c) := m2mCloudParsePskResponse J K env c payload
    if ret ≠ .ok then c.changeFsmTo .connect
    else
      { c with regTimer := false, pskInfo := { c.pskInfo with pskFinish := true } }.changeFsmTo
        (if c.register then .register else .login)

def m2mCloudRegisterRegRespHandler (env : ResponseEnv) (reply : Reply) (c : CloudContext) : CloudContext :=
  guarded .registerReg reply c fun payload =>
    let (ret, errcode) := m2mCloudParseRegisterResponse J env payload
    if ret ≠ .ok then c.changeFsmTo .connect
    else
      let c := { c with register := false, authInfo := ⟨List.replicate 16 0, List.replicate 16 0⟩ }
      if errcode ≠ 0 then c.changeFsmTo .exit
      else
        match env.loginInfo with
        | none => c.changeFsmTo .exit
        | some info => { c with authInfo := info }.changeFsmTo .login

def cloudLoginRespHandler (env : ResponseEnv) (reply : Reply) (c : CloudContext) : CloudContext :=
  guarded .login reply c fun payload =>
    let (ret, errcode, c) := m2mCloudLoginResponseParse J env c payload
    if ret ≠ 0 ∨ errcode ≠ 0 then c.changeFsmTo .connect
    else c.changeFsmTo (if c.revoke then .revoke else .devInfoSync)

def cloudRevokeRespHandler (c : CloudContext) : CloudContext := c.changeFsmTo .init

def sleDeviceCloudFsmInit (env : ResponseEnv) (c : CloudContext) : CloudContext :=
  if c.sleDevInfoSub then c
  else if env.sleSetup ≠ .ok then c
  else { c with sleSetupSub := true, sleDevInfoSub := env.sleDevInfo = .ok }

def m2mCloudAuthCodeRegRespHandler (env : ResponseEnv) (reply : Reply) (c : CloudContext) : CloudContext :=
  guarded .authCodeReg reply c fun payload =>
    let r := m2mCloudParseAuthCodeResponse J c payload
    if r.ret ≠ .ok then r.context.changeFsmTo .connect
    else sleDeviceCloudFsmInit env (r.context.changeFsmTo .online)

def cloudDevInfoSyncRespHandler (env : ResponseEnv) (reply : Reply) (c : CloudContext) : CloudContext :=
  guarded .devInfoSync reply c fun payload =>
    let (ret, errcode, c) := m2mCloudParseDevInfoSyncResponse J env c payload
    if ret ≠ .ok ∨ errcode ≠ 0 then c.changeFsmTo .connect
    -- the event that is published last removes the timer of the registration
    else { c with regTimer := false }.changeFsmTo .authCode

def m2mCloudDevIdRespHandler (env : ResponseEnv) (reply : Reply) (c : CloudContext) : CloudContext :=
  guarded .devId reply c fun payload =>
    if m2mCloudParseAuthCodeByResponse J env payload ≠ .ok then c.changeFsmTo .connect else c

def m2mCloudEcoDevInfoRespHandler (reply : Reply) (c : CloudContext) : CloudContext :=
  guarded .ecoDevInfo reply c fun payload =>
    let (ret, c) := m2mCloudParseEcoDevInfoByResponse J c payload
    if ret ≠ .ok then c.changeFsmTo .connect else c

def m2mCloudEcoDevStateRespHandler (env : ResponseEnv) (reply : Reply) (c : CloudContext) : CloudContext :=
  guarded .ecoDevState reply c fun payload =>
    if m2mCloudParseEcoDevStateByResponse J env payload ≠ .ok then c.changeFsmTo .connect else c

def m2mCloudHeartbbeatRespHandler (env : ResponseEnv) (reply : Reply) (c : CloudContext) : CloudContext :=
  match reply with
  | .timeout =>
    if c.sentCnt ≥ cloudHbTimeoutCnt then (m2mCloudDisableHeartbeat c).changeFsmTo .connect else c
  | .resp payload =>
    match J.parseWithLen payload with
    | none => c
    | some _ => if env.heartbeatTime ≠ .ok then c else { c with sentCnt := 0 }

def respHandler (env : ResponseEnv) (h : CloudHandler) (reply : Reply) (c : CloudContext) : CloudContext :=
  match h with
  | .pskReg => m2mCloudPskRegRespHandler J K env reply c
  | .registerReg => m2mCloudRegisterRegRespHandler J env reply c
  | .login => cloudLoginRespHandler J env reply c
  | .revoke => cloudRevokeRespHandler c
  | .authCodeReg => m2mCloudAuthCodeRegRespHandler J env reply c
  | .devInfoSync => cloudDevInfoSyncRespHandler J env reply c
  | .devId => m2mCloudDevIdRespHandler J env reply c
  | .ecoDevInfo => m2mCloudEcoDevInfoRespHandler J reply c
  | .ecoDevState => m2mCloudEcoDevStateRespHandler J env reply c
  | .heartbeat => m2mCloudHeartbbeatRespHandler J env reply c
  | .tokenRefresh => { c with token := cloudTokenRefreshRespHandler J env.token reply c.token }

/-! ## Timeouts and responses -/

/-- One round of `CoapClientRespTimeoutCheck` with the context that its handlers work on. -/
def timeoutCheckRound (env : ResponseEnv) (lock : Bool) (cur : UInt32) (c : CloudContext) : Bool × CloudContext :=
  let (again, endpoint) := timeoutRound lock cur c.endpoint
  let c' := { c with endpoint := endpoint }
  match (getTimeoutRespHandler lock cur c.endpoint.client).1 with
  | none => (again, c')
  | some h => (again, respHandler J K env h.fn .timeout c')

def timeoutCheckLoop (env : ResponseEnv) (lock : ℕ → Bool) (cur : UInt32) : ℕ → ℕ → CloudContext → CloudContext
  | 0, _, c => c
  | fuel + 1, round, c =>
    let (again, c) := timeoutCheckRound J K env (lock round) cur c
    if again then timeoutCheckLoop env lock cur fuel (round + 1) c else c

def timeoutCheck (env : ResponseEnv) (sweep : SweepEnv) (c : CloudContext) : CloudContext :=
  timeoutCheckLoop J K env sweep.lock sweep.cur (c.endpoint.client.reqList.length + 1) 0 c

structure RecvEnv where
  lock : Bool
  response : ResponseEnv
  sweep : SweepEnv

/-- `CoapEndpointClientRecvRespPacket` up to and with the call of the handler. -/
def recvHandled (env : RecvEnv) (pkt : CoapPacket) (payload : List UInt8) (c : CloudContext) : CloudContext :=
  let c' := { c with endpoint := handleResp env.lock pkt c.endpoint }
  match (getRespHandler env.lock c.endpoint.client pkt).1 with
  | none => c'
  | some h => respHandler J K env.response h.fn (.resp payload) c'

def recvRespPacket (env : RecvEnv) (pkt : CoapPacket) (payload : List UInt8) (c : CloudContext) : CloudContext :=
  timeoutCheck J K env.response env.sweep (recvHandled J K env pkt payload c)

/-! ## Sending a request -/

/-- What becomes of the bytes of a request: they are not built or given to the link, the link fails, or they
are sent as the packet. -/
inductive SendOutcome
  | failed (ret : IotcErr)
  | linkError (ret : IotcErr)
  | sent (pkt : CoapPacket)

structure RequestEnv where
  /-- Whether the options, the JSON object and its fields can be built. -/
  options : Bool
  jsonCreate : Bool
  jsonAdd : Bool
  /-- What `SecurityRandom` leaves in `sn1`. -/
  sn1 : List UInt8
  outcome : SendOutcome
  response : ResponseEnv
  sweep : SweepEnv
  insert : InsertEnv

/-- The builders of the requests: whether there is a JSON object, and the context. -/
def m2mBuildRequest (env : RequestEnv) (h : CloudHandler) (c : CloudContext) : Bool × CloudContext :=
  if env.jsonCreate = false then (false, c)
  else
    match h with
    -- the random value changes before the fields are added, the counter of the heartbeat after them
    | .pskReg => (env.jsonAdd, { c with sn1 := env.sn1 })
    | .heartbeat => (env.jsonAdd, if env.jsonAdd then { c with sentCnt := c.sentCnt + 1 } else c)
    | _ => (env.jsonAdd, c)

/-- `M2mCloudSendRequest` with `CoapClientSendReq` and `CoapClientInsertReq`, which sweeps. -/
def m2mCloudSendRequest (env : RequestEnv) (h : CloudHandler) (c : CloudContext) : IotcRet × CloudContext :=
  if c.created = false then (.errParamInvalid, c)
  else if env.options = false then (.cloudErrBuildOption, c)
  else
    let (built, c) := m2mBuildRequest env h c
    if built = false then (.cloudErrBuildReqJson, c)
    else
      match env.outcome with
      | .failed ret => (ret.val, c)
      | .linkError ret => (ret.val, cloudSessLinkErrorCallback c)
      | .sent pkt =>
        let c := timeoutCheck J K env.response env.sweep c
        -- a request that could not be recorded is sent all the same
        (.ok, { c with endpoint :=
          (insertReq env.insert pkt.header.msgId pkt.token pkt.header.tkl.val h c.endpoint).2 })

/-! ## State handlers

A handler returns the next state and leaves a context whose own state it may have switched. -/

inductive DevBindStatus
  | invalid
  | notBind
  | bind
  | revoke
  deriving DecidableEq

structure InitEnv where
  bindStatus : DevBindStatus
  loginInfo : Option AuthInfo
  regInfo : Option AuthInfo
  subscribe : IotcRet
  timerAdd : Bool

def cloudFsmInitHandler (env : InitEnv) (c : CloudContext) : FsmState × CloudContext :=
  let c := { c with register := false, revoke := false, enableBackoff := false }
  if env.bindStatus = .bind ∨ env.bindStatus = .revoke then
    match env.loginInfo with
    | none => (.init, c)
    | some info => (.createLink, { c with authInfo := info, revoke := env.bindStatus = .revoke })
  else
    match env.regInfo with
    | none => (.init, c)
    | some info =>
      let c := { c with authInfo := info, register := true }
      if c.regTimer then (.createLink, c)
      else if env.subscribe ≠ .ok then (.init, c)
      else (.createLink, { c with regTimer := env.timerAdd })

def m2mCloudLinkDeinit (c : CloudContext) : CloudContext :=
  { m2mCloudLinkClose c with
    created := false
    endpoint := { c.endpoint with client := { c.endpoint.client with reqCnt := 0, reqList := [] } } }

structure CreateEnv where
  msgId : UInt16
  linkCreate : IotcRet
  ctlInit : IotcRet
  delInit : IotcRet

def cloudRespTimeoutMs : UInt32 := 30 * 1000

def m2mCloudLinkCreate (env : CreateEnv) (c : CloudContext) : CloudContext :=
  let c := m2mCloudLinkDeinit c
  if env.linkCreate ≠ .ok then c
  else
    { c with
      created := true
      endpoint := { c.endpoint with
        client := { coapEndpointClientInit env.msgId none with tkl := cloudTokenLen, timeout := cloudRespTimeoutMs } } }

def cloudFsmCreateLinkHandler (env : CreateEnv) (c : CloudContext) : FsmState × CloudContext :=
  let c := m2mCloudLinkCreate env c
  if env.linkCreate ≠ .ok ∨ env.ctlInit ≠ .ok ∨ env.delInit ≠ .ok then (.createLink, c)
  else (.connect, m2mCloudBackoffInit c)

structure ConnectEnv where
  netConnected : Bool
  /-- The clock before the attempt, and when it is over. -/
  now : UInt32
  updated : UInt32
  random : UInt32
  linkConnect : IotcRet
  /-- Sending the first message of the connection fails. -/
  csmLinkError : Bool
  deriving DecidableEq

def m2mCloudLinkConnect (env : ConnectEnv) (c : CloudContext) : Bool × CloudContext :=
  if c.created ∧ env.linkConnect = .ok then (true, { c with link := true })
  else (false, m2mCloudLinkClose c)

def cloudFsmConnectHandler (env : ConnectEnv) (c : CloudContext) : FsmState × CloudContext :=
  if env.netConnected = false ∨ isM2mCloudBackoffTime env.now c then (.connect, c)
  else
    let (connected, c) := m2mCloudLinkConnect env c
    let c := m2mCloudBackoffUpdate env.random env.updated c
    if connected = false then (.connect, c)
    else (.psk, if env.csmLinkError then cloudSessLinkErrorCallback c else c)

def requestHandler (h : CloudHandler) (wait : FsmState) (env : RequestEnv) (c : CloudContext) :
    FsmState × CloudContext :=
  let (ret, c) := m2mCloudSendRequest J K env h c
  (if ret ≠ .ok then .connect else wait, c)

def cloudFsmPskHandler (env : RequestEnv) (c : CloudContext) : FsmState × CloudContext :=
  requestHandler J K .pskReg .pskWaitResp env { c with pskInfo := { c.pskInfo with pskFinish := false } }

def cloudFsmRegisterHandler := requestHandler J K .registerReg .registerWaitResp
def cloudFsmLoginHandler := requestHandler J K .login .loginWaitResp
def cloudFsmAuthCodeHandler := requestHandler J K .authCodeReg .authCodeWaitResp
def cloudFsmRevokeHandler := requestHandler J K .revoke .revokeWaitResp
def cloudFsmDevInfoSyncHandler := requestHandler J K .devInfoSync .devInfoSyncWaitResp
def cloudFsmDevIdGetAuthCodeHandler := requestHandler J K .devId .getAuthCodeWaitResp
def cloudFsmEcoDevInfoSyncHandler := requestHandler J K .ecoDevInfo .ecoDevInfoSyncWaitResp
def cloudFsmEcoDevStateSyncHandler := requestHandler J K .ecoDevState .ecoStateSyncWaitResp

structure FsmEnv where
  init : InitEnv
  create : CreateEnv
  connect : ConnectEnv
  request : RequestEnv

/-- The table `CLOUD_FSM`. States that wait, and states without a handler, stay. -/
def fsmHandler (env : FsmEnv) (c : CloudContext) : FsmState × CloudContext :=
  match c.cur with
  | .init => cloudFsmInitHandler env.init c
  | .createLink => cloudFsmCreateLinkHandler env.create c
  | .connect => cloudFsmConnectHandler env.connect c
  | .psk => cloudFsmPskHandler J K env.request c
  | .register => cloudFsmRegisterHandler J K env.request c
  | .login => cloudFsmLoginHandler J K env.request c
  | .authCode => cloudFsmAuthCodeHandler J K env.request c
  | .revoke => cloudFsmRevokeHandler J K env.request c
  | .devInfoSync => cloudFsmDevInfoSyncHandler J K env.request c
  | .getAuthCode => cloudFsmDevIdGetAuthCodeHandler J K env.request c
  | .ecoDevInfoSync => cloudFsmEcoDevInfoSyncHandler J K env.request c
  | .ecoStateSync => cloudFsmEcoDevStateSyncHandler J K env.request c
  | cur => (cur, c)

def utilsFsmRunning (env : FsmEnv) (c : CloudContext) : CloudContext :=
  let (next, c) := fsmHandler J K env c
  { c with cur := next }

/-! ## The client -/

/-- `accepted` says whether the callback of a sub-device gets to its switch: a setup is new to the pending list and can be
added to it; the information is there, and so is a pending device it belongs to. -/
inductive CloudEvent
  | fsmTimer (env : FsmEnv)
  | response (env : RecvEnv) (pkt : CoapPacket) (payload : List UInt8)
  | timeoutCheck (env : ResponseEnv) (sweep : SweepEnv)
  | linkError
  | heartbeatTimer (env : RequestEnv)
  | tokenTimer (env : RequestEnv) (now : UInt32)
  | registerTimeout
  | sleSetup (accepted : Bool)
  | sleDevInfo (accepted : Bool)
  | restart

/-- `TokenUpdateTimerCallback` -/
def tokenTimerCallback (env : RequestEnv) (now : UInt32) (c : CloudContext) : CloudContext :=
  let (ret, c) := m2mCloudSendRequest J K env .tokenRefresh c
  if ret ≠ .ok then c else { c with token := (tokenUpdateTimerCallback now c.token).2 }

/-- `M2mCloudServiceStop` and `M2mCloudServiceStart`. -/
def serviceRestart (c : CloudContext) : CloudContext :=
  m2mCloudLinkDeinit { c with
    cur := .init, regTimer := false, hbTimer := false, token := { c.token with tokenTimer := none } }

/-- Packets are received and requests time out while the link is open, timers fire while they run, and the
link reports errors from when it is created. -/
def cloudStep (c : CloudContext) : CloudEvent → CloudContext
  | .fsmTimer env => utilsFsmRunning J K env c
  | .response env pkt payload => if c.link then recvRespPacket J K env pkt payload c else c
  | .timeoutCheck env sweep => if c.link then timeoutCheck J K env sweep c else c
  | .linkError => if c.created then cloudSessLinkErrorCallback c else c
  | .heartbeatTimer env => if c.hbTimer then (m2mCloudSendRequest J K env .heartbeat c).2 else c
  | .tokenTimer env now => if c.token.tokenTimer.isSome then tokenTimerCallback J K env now c else c
  | .registerTimeout => if c.regTimer then { c with regTimer := false }.changeFsmTo .exit else c
  | .sleSetup accepted => if c.sleSetupSub && accepted then c.changeFsmTo .getAuthCode else c
  | .sleDevInfo accepted => if c.sleDevInfoSub && accepted then c.changeFsmTo .ecoDevInfoSync else c
  | .restart => serviceRestart c

end IotConnect.Cloud
