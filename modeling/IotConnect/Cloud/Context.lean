import IotConnect.Cloud.Token
import IotConnect.Coap.TcpV1
import IotConnect.Common.Hex
import IotConnect.Endpoint.Client

/-! # The cloud context and its responses (`m2m_cloud_ctx.h`, `biz/m2m_cloud_psk.c`, `_reg.c`, `_login.c`,
`_sync.c`, `_authcode.c`, `_heartbeat.c`)

The context of the cloud client with the global random values of the PSK exchange, and what a response to
each kind of request does to it. The device service, the timers, the JSON parser and the key derivation are
parameters or inputs. -/
namespace IotConnect.Cloud
open Bytes Coap Endpoint
set_option autoImplicit false

inductive FsmState
  | init
  | createLink
  | connect
  | psk
  | pskWaitResp
  | register
  | registerWaitResp
  | login
  | loginWaitResp
  | authCode
  | authCodeWaitResp
  | revoke
  | revokeWaitResp
  | devInfoSync
  | devInfoSyncWaitResp
  | devStatusSync
  | devStatusSyncWaitResp
  | online
  | delete
  | getAuthCode
  | ecoDevInfoSync
  | ecoDevInfoSyncWaitResp
  | ecoStateSync
  | ecoStateSyncWaitResp
  | getAuthCodeWaitResp
  | exit
  deriving DecidableEq

/-- The response handlers that requests are sent with. -/
inductive CloudHandler
  | pskReg
  | registerReg
  | login
  | revoke
  | authCodeReg
  | devInfoSync
  | devId
  | ecoDevInfo
  | ecoDevState
  | heartbeat
  | tokenRefresh
  deriving DecidableEq

/-- The pre-shared keys that the two members of the union `authInfo` have where they are. -/
structure AuthInfo where
  regPsk : List UInt8
  loginPsk : List UInt8
  deriving DecidableEq

structure AuthCodeInfo where
  authCode : List UInt8
  authCodeId : List UInt8
  timeout : Int

structure BackoffInfo where
  cnt : UInt8
  before : UInt32
  interval : UInt32
  deriving DecidableEq

structure CloudContext where
  cur : FsmState
  /-- `M2M_CLOUD_CTX_BIT_REGISTER`, `_REVOKE` and `_ENABLE_BACKOFF` of `bitMap`. -/
  register : Bool
  revoke : Bool
  enableBackoff : Bool
  regTimer : Bool
  hbTimer : Bool
  sentCnt : UInt16
  token : TokenState
  backoffInfo : BackoffInfo
  authInfo : AuthInfo
  authCodeInfo : AuthCodeInfo
  pskInfo : PskInfo
  /-- The global `sn1` and `sn2` of `m2m_cloud_psk.c`. -/
  sn1 : List UInt8
  sn2 : List UInt8
  /-- The link, the session and the endpoint exist, and the descriptor of the link is open. -/
  created : Bool
  link : Bool
  endpoint : CoapEndpoint CloudHandler
  /-- The two events of end devices are subscribed to, the second one last. -/
  sleSetupSub : Bool
  sleDevInfoSub : Bool

/-- `SESS_SN_LEN`, which is `RAND_SN_LEN`, too. -/
def sessSnLen : ℕ := 8
def sessionKeyLen : ℕ := 32
def cloudTokenLen : Fin 9 := 2
def cloudHbTimeoutCnt : UInt16 := 2

/-- `M2mCloudCtxInit` and `M2mCloudFsmInit`. -/
def CloudContext.start : CloudContext where
  cur := .init
  register := false
  revoke := false
  enableBackoff := false
  regTimer := false
  hbTimer := false
  sentCnt := 0
  token := TokenState.init
  backoffInfo := ⟨0, 0, 0⟩
  authInfo := ⟨List.replicate 16 0, List.replicate 16 0⟩
  authCodeInfo := ⟨List.replicate 16 0, List.replicate 16 0, 0⟩
  pskInfo := ⟨false, false, List.replicate sessionKeyLen 0, List.replicate (2 * sessSnLen) 0⟩
  sn1 := List.replicate sessSnLen 0
  sn2 := List.replicate sessSnLen 0
  created := false
  link := false
  endpoint := CoapEndpoint.start (coapEndpointClientInit 0 none)
  sleSetupSub := false
  sleDevInfoSub := false

/-- `CHANGE_FSM_TO`, which is `UtilsFsmSwitch` on the state machine of the context. -/
def CloudContext.changeFsmTo (c : CloudContext) (state : FsmState) : CloudContext := { c with cur := state }

/-! ## Outcomes of the services -/

structure ResponseEnv where
  token : TokenEnv
  /-- `DevSvcProxyRecvLoginInfo` -/
  recvLoginInfo : IotcRet
  /-- `DevSvcProxyGetLoginInfo`, when it succeeds and finds something. -/
  loginInfo : Option AuthInfo
  /-- Whether `IotcPkcs5Pbkdf2Hmac` succeeds, and what it leaves in the key if not. -/
  kdfOk : Bool
  keyLeft : List UInt8
  /-- Whether the heartbeat timer can be added. -/
  hbTimerAdd : Bool
  /-- What becomes of the end device that a response is about. -/
  endDevice : IotcRet
  /-- Whether the time in a heartbeat response could be set, if there is one. -/
  heartbeatTime : IotcRet
  /-- Whether the two events of end devices can be subscribed to. -/
  sleSetup : IotcRet
  sleDevInfo : IotcRet

-- `K` is `IotcPkcs5Pbkdf2Hmac` with the number of rounds and the length of the session key
variable (J : JsonAdapter) (K : (password salt : List UInt8) → List UInt8)

/-! ## The error code of a response -/

def respErrcode (payload : List UInt8) : Except IotcErr (J.Obj × Int) :=
  if payload = [] then .error ⟨.errParamInvalid, IotcRet.errParamInvalid_ne_ok⟩
  else
    match J.parseWithLen payload with
    | none => .error ⟨.jsonErrParse, IotcRet.jsonErrParse_ne_ok⟩
    | some json =>
      match utilsJsonGetNum J json "errcode" with
      | .error ret => .error ret
      | .ok errcode => .ok (json, errcode)

def carriedErrcode (payload : List UInt8) : Option Int := (J.parseWithLen payload).bind (carriedNum J · "errcode")

/-- The error code as it stands in the text, before its conversion. -/
def writtenErrcode (payload : List UInt8) : Option Rat :=
  (J.parseWithLen payload).bind fun json => (J.getObj json "errcode").bind J.num

theorem carriedErrcode_eq (payload : List UInt8) : carriedErrcode J payload = (writtenErrcode J payload).map J.toInt64 := by
  unfold carriedErrcode carriedNum writtenErrcode
  cases J.parseWithLen payload with
  | none => rfl
  | some json =>
    cases hobj : J.getObj json "errcode" with
    | none => simp [hobj]
    | some obj => simp [hobj, JsonAdapter.int]

/-! ## The pre-shared key -/

/-- The bytes that the loop of `UtilsUnhexify` has written when it ends, be it at a character that is no
digit. -/
def unhexWritten : List UInt8 → List UInt8
  | h :: l :: s =>
    match hexChar2Num h, hexChar2Num l with
    | some high, some low => (high <<< 4 ||| low) :: unhexWritten s
    | _, _ => []
  | _ => []

/-- `UtilsUnhexify` into an array of the length of `out`. -/
def unhexifyInto (text out : List UInt8) : List UInt8 :=
  if text.length = 0 ∨ out.length = 0 ∨ text.length % 2 ≠ 0 ∨ out.length < text.length / 2 then out
  else unhexWritten text ++ out.drop (unhexWritten text).length

theorem unhexWritten_length (s : List UInt8) : (unhexWritten s).length ≤ s.length / 2 := by
  induction s using unhexWritten.induct with
  | case1 a b s high low hhigh hlow ih =>
    rw [unhexWritten, hhigh, hlow, List.length_cons, List.length_cons, List.length_cons]
    omega
  | case2 a b s hno =>
    rw [unhexWritten]
    split
    · next high low hhigh hlow => exact absurd hlow (hno high low hhigh)
    · exact Nat.zero_le _
  | case3 s hs =>
    match s, hs with
    | [], _ => exact Nat.zero_le _
    | [_], _ => exact Nat.zero_le _
    | a :: b :: s, hs => exact absurd rfl (hs a b s)

theorem unhexifyInto_length (text out : List UInt8) : (unhexifyInto text out).length = out.length := by
  unfold unhexifyInto
  split_ifs with hrefused
  · rfl
  · simp only [not_or, Nat.not_lt] at hrefused
    have hle := Nat.le_trans (unhexWritten_length text) hrefused.2.2.2
    rw [List.length_append, List.length_drop]
    omega

def CloudContext.psk (c : CloudContext) : List UInt8 :=
  if c.register then c.authInfo.regPsk else c.authInfo.loginPsk

def stationSessKeyGen (env : ResponseEnv) (c : CloudContext) : IotcRet × CloudContext :=
  let salt := c.sn1 ++ c.sn2
  if env.kdfOk = false then
    (.error, { c with pskInfo := { c.pskInfo with salt := salt, key := env.keyLeft } })
  else (.ok, { c with pskInfo := { c.pskInfo with salt := salt, key := K c.psk salt, pskFinish := true } })

def m2mCloudParsePskResponse (env : ResponseEnv) (c : CloudContext) (payload : List UInt8) : IotcRet × CloudContext :=
  match respErrcode J payload with
  | .error ret => (ret.val, c)
  | .ok (json, errcode) =>
    if errcode ≠ 0 then (.error, c)
    else
      match utilsJsonGetString J json "sn2" (2 * (sessionKeyLen + 1) + 1) with
      | .error ret => (ret.val, c)
      | .ok sn2Str =>
        match utilsJsonGetString J json "encryptMode" 130 with
        | .error ret => (ret.val, c)
        | .ok encryptModeStr =>
          let c := { c with
            pskInfo := { c.pskInfo with encrypt := encryptModeStr = ascii "plaintext" }
            sn2 := unhexifyInto sn2Str c.sn2 }
          -- the results of `UtilsUnhexify` and of `StationSessKeyGen` are dropped
          (.ok, (stationSessKeyGen K env c).2)

/-! ## The other responses -/

def m2mCloudParseRegisterResponse (env : ResponseEnv) (payload : List UInt8) : IotcRet × Int :=
  match respErrcode J payload with
  | .error ret => (ret.val, 0)
  | .ok (_, errcode) => if errcode ≠ 0 then (.ok, errcode) else (env.recvLoginInfo, errcode)

def m2mCloudLoginResponseParse (env : ResponseEnv) (c : CloudContext) (payload : List UInt8) :
    Int × Int × CloudContext :=
  match respErrcode J payload with
  | .error ret => (ret.val.code, 0, c)
  | .ok (json, errcode) =>
    let ret := dealErrCodeRsp env.token errcode
    if ret ≠ 0 then (ret, errcode, c)
    else if errcode = 0 then
      let (ret, token) := parseTokenInfo J env.token c.token json
      (ret.code, errcode, { c with token := token })
    else (0, errcode, c)

def m2mCloudEnableHeartbeat (env : ResponseEnv) (c : CloudContext) : CloudContext :=
  { c with sentCnt := 0, hbTimer := c.hbTimer || env.hbTimerAdd }

def m2mCloudDisableHeartbeat (c : CloudContext) : CloudContext := { c with sentCnt := 0, hbTimer := false }

def m2mCloudParseDevInfoSyncResponse (env : ResponseEnv) (c : CloudContext) (payload : List UInt8) :
    IotcRet × Int × CloudContext :=
  match respErrcode J payload with
  | .error ret => (ret.val, 0, c)
  | .ok (_, errcode) => (.ok, errcode, if errcode = 0 then m2mCloudEnableHeartbeat env c else c)

/-- What `M2mCloudParseAuthCodeResponse` returns and leaves, with the number of objects it has parsed and the number of
times it has released one. -/
structure AuthCodeOutcome where
  ret : IotcRet
  errcode : Int
  context : CloudContext
  parsed : ℕ
  released : ℕ

def m2mCloudParseAuthCodeResponse (c : CloudContext) (payload : List UInt8) : AuthCodeOutcome :=
  if payload = [] then ⟨.errParamInvalid, 0, c, 0, 0⟩
  else
    match J.parseWithLen payload with
    | none => ⟨.jsonErrParse, 0, c, 0, 0⟩
    | some json =>
      match utilsJsonGetNum J json "errcode" with
      | .error ret => ⟨ret.val, 0, c, 1, 1⟩
      | .ok errcode =>
        if errcode ≠ 0 then ⟨.ok, errcode, c, 1, 1⟩
        else
          match utilsJsonGetString J json "authCode" (2 * (16 + 1) + 1) with
          | .error ret => ⟨ret.val, errcode, c, 1, 1⟩
          | .ok authcodeStr =>
            let info := { c.authCodeInfo with authCode := unhexifyInto authcodeStr c.authCodeInfo.authCode }
            match utilsJsonGetString J json "authCodeId" (2 * (16 + 1) + 1) with
            | .error ret => ⟨ret.val, errcode, { c with authCodeInfo := info }, 1, 1⟩
            | .ok authcodeIdStr =>
              let info := { info with authCodeId := unhexifyInto authcodeIdStr info.authCodeId }
              match utilsJsonGetNum J json "timeout" with
              | .error ret => ⟨ret.val, errcode, { c with authCodeInfo := info }, 1, 1⟩
              -- the local `timeout`, which is still `0`, replaces the one that was read; nothing releases the object
              | .ok _ => ⟨.ok, errcode, { c with authCodeInfo := { info with timeout := 0 } }, 1, 0⟩

def m2mCloudParseAuthCodeByResponse (env : ResponseEnv) (payload : List UInt8) : IotcRet :=
  match respErrcode J payload with
  | .error ret => ret.val
  | .ok (_, errcode) => if errcode ≠ 0 then .ok else env.endDevice

def m2mCloudParseEcoDevInfoByResponse (c : CloudContext) (payload : List UInt8) : IotcRet × CloudContext :=
  match respErrcode J payload with
  | .error ret => (ret.val, c)
  | .ok (_, errcode) => (.ok, if errcode ≠ 0 then c else c.changeFsmTo .ecoStateSync)

def m2mCloudParseEcoDevStateByResponse (env : ResponseEnv) (payload : List UInt8) : IotcRet :=
  if payload = [] then .errParamInvalid
  else
    match J.parseWithLen payload with
    | none => .jsonErrParse
    | some _ => env.endDevice

end IotConnect.Cloud
