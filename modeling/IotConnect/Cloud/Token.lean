import IotConnect.Common.JsonUtils
import IotConnect.Frameworks.Timer

/-! # The cloud access token (`m2m_cloud_token.c`)

A login response stores an access token, a refresh token and their lifetime, and starts the timer that is to
ask for new ones in time. The timer is a repeating one of the event loop. The
readings of the clock, the services of the device and the parsing of numbers in text are inputs. -/
namespace IotConnect.Cloud
set_option autoImplicit false

def tokenMaxReqTime : UInt32 := 4
/-- `CLOUD_ACCESS_TOKEN_STR_LEN`, which is `CLOUD_REFRESH_TOKEN_STR_LEN`, too. -/
def cloudTokenStrLen : ℕ := 40

structure TokenInfo where
  access : List UInt8
  refresh : List UInt8
  timeout : UInt32
  updateTime : UInt32
  cnt : UInt32
  deriving DecidableEq

/-- `tokenInfo` and `tokenTimer` of the cloud context, with the node of the timer, whose callback is
`TokenUpdateTimerCallback`; a negative timer is none. -/
structure TokenState where
  tokenInfo : TokenInfo
  tokenTimer : Option (Timer.TimerNode Unit)
  deriving DecidableEq

def TokenState.init : TokenState := ⟨⟨[], [], 0, 0, 0⟩, none⟩

/-- `CloudTokenInfo` -/
structure CloudTokenInfo where
  access : List UInt8
  refresh : List UInt8
  timeout : UInt32
  deriving DecidableEq

structure TokenEnv where
  /-- `IotcGetSysTimeMs` where the token is stored, in `CalcWaitTime` and where the timer is added. -/
  updateTime : UInt32
  calcTime : UInt32
  addTime : UInt32
  /-- What `SchedTimerAdd` gives, the id of a timer or an error. -/
  timerAdd : Except IotcErr ℕ
  atoll : List UInt8 → Int
  setUtcTimeStamp : Int → IotcRet
  cleanLoginInfo : IotcRet
  fwkRestore : IotcRet

def dealErrCodeRsp (env : TokenEnv) (errcode : Int) : Int :=
  -- `CLOUD_ERRCODE_CODE_DEV_DELETED`, `CLOUD_ERRCODE_CODE_EXPIRED`, `CLOUD_ERRCODE_CODE_SECRET_ERR`
  if errcode = 6 ∨ errcode = 3 ∨ errcode = 5 then
    if env.cleanLoginInfo ≠ .ok then env.cleanLoginInfo.code
    else if env.fwkRestore ≠ .ok then env.fwkRestore.code
    else 0
  else errcode

def calcWaitTime (now : UInt32) (info : TokenInfo) : Except IotcErr UInt32 :=
  let passTime := utilsDeltaTime now info.updateTime
  if passTime ≥ info.timeout ∨ info.cnt > tokenMaxReqTime then .error ⟨.cloudErrTokenExpire, by decide⟩
  else
    let refreshInterval := info.timeout >>> 5
    let nextReqTime := info.timeout - refreshInterval * (tokenMaxReqTime - info.cnt)
    .ok (if nextReqTime ≤ passTime then 0 else nextReqTime - passTime)

def tokenUpdateTimerCallback (now : UInt32) (s : TokenState) : Except IotcErr Unit × TokenState :=
  match calcWaitTime now s.tokenInfo with
  | .error ret => (.error ret, s)
  | .ok _waitTime => (.ok (), s)

def updateTokenRefreshTimer (env : TokenEnv) (s : TokenState) : Except IotcErr TokenState :=
  match s.tokenTimer with
  | some _ => .ok s
  | none =>
    match calcWaitTime env.calcTime s.tokenInfo with
    | .error ret => .error ret
    | .ok waitTime =>
      match env.timerAdd with
      | .error ret => .error ret
      | .ok id =>
        .ok { s with tokenTimer := some (Timer.timerNodeNew env.addTime id .repeated (some ()) waitTime) }

def updateCloudTokenInfo (env : TokenEnv) (s : TokenState) (token : CloudTokenInfo) : IotcRet × TokenState :=
  if token.access = [] then (.cloudErrInvalidAccessToken, s)
  else if token.refresh = [] then (.cloudErrInvalidRefreshToken, s)
  else if token.timeout = 0 then (.cloudErrInvalidTokenTimeout, s)
  else
    let info := { s.tokenInfo with
      access := token.access, refresh := token.refresh, updateTime := env.updateTime, timeout := token.timeout }
    match updateTokenRefreshTimer env { s with tokenInfo := info } with
    | .error ret => (ret.val, { s with tokenInfo := info })
    | .ok s => (.ok, s)

variable (J : JsonAdapter)

def updateTimeStamp (env : TokenEnv) (json : J.Obj) : IotcRet :=
  match (J.getObj json "timestamp").bind J.str, (J.getObj json "timezone").bind J.str with
  | some timestamp, some _ => if env.atoll timestamp = 0 then .cloudErrInvalidTimestamp else env.setUtcTimeStamp (env.atoll timestamp)
  | _, _ => .ok

def getTokenInfo (json : J.Obj) : Except IotcErr CloudTokenInfo := do
  let access ← utilsJsonGetString J json "accessToken" (cloudTokenStrLen + 1)
  let refresh ← utilsJsonGetString J json "refreshToken" (cloudTokenStrLen + 1)
  let timeout ← utilsJsonGetUint J json "timeout"
  if timeout > 0xFFFFFFFF / 1000 then .error ⟨.cloudErrTokenTimeoutInvalid, by decide⟩
  else .ok ⟨access, refresh, timeout * 1000⟩

def parseTokenInfo (env : TokenEnv) (s : TokenState) (json : J.Obj) : IotcRet × TokenState :=
  if updateTimeStamp J env json ≠ .ok then (updateTimeStamp J env json, s)
  else
    match getTokenInfo J json with
    | .error ret => (ret.val, s)
    | .ok token => updateCloudTokenInfo env s token

/-- What a request for a refresh ends with. -/
inductive Reply
  | timeout
  | resp (payload : List UInt8)

def cloudTokenRefreshRespHandler (env : TokenEnv) (reply : Reply) (s : TokenState) : TokenState :=
  match reply with
  | .timeout => s
  | .resp payload =>
    match J.parseWithLen payload with
    | none => s
    | some json =>
      match utilsJsonGetNum J json "errcode" with
      | .error _ => s
      | .ok errcode =>
        if dealErrCodeRsp env errcode = 0 then s
        else if errcode ≠ 0 then s
        else (parseTokenInfo J env s json).2

def m2mCloudDisableTokenInfo (_ : TokenState) : TokenState := TokenState.init

end IotConnect.Cloud
