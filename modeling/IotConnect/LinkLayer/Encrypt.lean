import IotConnect.LinkLayer.Service
import IotConnect.Speke.Session

/-! # Encryption of service frames (`linklayer_encrypt*.c`, `security_speke_session.c`)

A frame is sent as it is, or sealed as a whole with the data key of the SPEKE session, or with its body
sealed by the session key callbacks and an HMAC behind it. Each way to encrypt exists twice: into memory
of its own, and into the buffer that is sent. Decryption is in place. The callbacks, the random source,
AES-GCM and the success of allocations are parameters. -/
namespace IotConnect.LinkLayer
open Bytes Memory Speke
set_option autoImplicit false

def sessIdLen : ℕ := 32
def sessHmacLen : ℕ := 32
def sessIvLen : ℕ := 12
def sessTagLen : ℕ := 16

def gcmVerLen : ℕ := 1
def gcmIvLen : ℕ := 12
def gcmTagLen : ℕ := 16
def gcmVersion : UInt8 := 0
def spekeEncDataMinLen : ℕ := gcmVerLen + gcmIvLen + gcmTagLen
def spekeDecDataMaxLen : ℕ := 1024 * 1024

def spekeEncDataMaxOverhead : ℕ := 29
def sessEncDataMaxOverhead : ℕ := 92
def encDataMaxOverhead : ℕ := max sessEncDataMaxOverhead spekeEncDataMaxOverhead

/-- The SPEKE session and `g_sessKeyCb`, with what `sessKeyExist` says. A session key callback that writes into a buffer
of `n` bytes gets it cleared; its result is what the buffer holds when it returns. -/
structure EncryptKeys where
  session : Option SpekeSession
  sessKeyExist : Bool
  sessKeyEncrypt : Option (List UInt8 → (n : ℕ) → Except IotcRet (Block n))
  sessKeyDecrypt : Option (List UInt8 → (n : ℕ) → Except IotcRet (Block n))
  sessKeyCalHmac : Option (List UInt8 → Except IotcRet (Block sessHmacLen))
  sessKeyCheckHmac : Option (List UInt8 → List UInt8 → IotcRet)

/-- `aesGcmEncrypt` and `aesGcmDecrypt` get the key, the IV and the data. -/
structure CipherEnv where
  random : Except IotcRet (Block gcmIvLen)
  aesGcmEncrypt : Block sessionKeyLen → List UInt8 → (data : List UInt8) →
    Except IotcRet (Block data.length × Block gcmTagLen)
  aesGcmDecrypt : Block sessionKeyLen → List UInt8 → (data : List UInt8) → (tag : List UInt8) →
    Except IotcRet (Block data.length)
  /-- Whether there is memory for so many bytes. -/
  mem : ℕ → Bool

structure EncryptEnv extends CipherEnv, EncryptKeys

def callback {α : Type} (cb : Option α) : Except IotcRet α :=
  match cb with
  | none => .error .errCallbackNull
  | some f => .ok f

/-- `LinkLayerEncryptOut` and `SpekeDataBuf`, where the result is written. -/
structure LinkLayerEncryptOut where
  buff : ℕ → UInt8
  buffCap : ℕ

abbrev Written := (ℕ → UInt8) × ℕ

def Written.bytes (w : Written) : List UInt8 := load w.1 0 w.2

/-! ## Session key -/

section
variable (env : EncryptEnv)

def sessKeyCmdParam (data : List UInt8) : Except IotcRet BtCmdParam := do
  let cmdParam ← decodeCmdData data
  if cmdParam.request ≠ [] ∧ cmdParam.request.length < data.length then .ok cmdParam else .error .bleLlErrBody

/-- The new body: the IV, the encrypted body with its tag, the session id. -/
def sessTotalBodyLen (requestLen : ℕ) : ℕ := sessIvLen + (requestLen + sessTagLen) + sessIdLen

def sessOutLen (data : List UInt8) (cmdParam : BtCmdParam) : ℕ :=
  data.length - cmdParam.request.length + sessTotalBodyLen cmdParam.request.length + sessHmacLen

/-- From the copy of the header on, in a cleared buffer of `outLen` bytes. -/
def sessKeyFill (data : List UInt8) (cmdParam : BtCmdParam) (out : ℕ → UInt8) (outLen : ℕ) :
    Except IotcRet (ℕ → UInt8) :=
  let svcHeaderLen := data.length - cmdParam.request.length
  match memcpyS out 0 outLen (data.take svcHeaderLen) with
  | none => .error .errSecurecMemcpy
  | some out =>
    if svcHeaderLen < svcPayloadLenLen then .error .bleLlErrBody
    else do
      let out := store out (svcHeaderLen - svcPayloadLenLen)
        (payloadLenBytes (sessTotalBodyLen cmdParam.request.length))
      let encrypt ← callback env.sessKeyEncrypt
      let body ← encrypt cmdParam.request (outLen - svcHeaderLen - sessHmacLen)
      let out := store out svcHeaderLen body.val
      let calHmac ← callback env.sessKeyCalHmac
      let hmac ← calHmac (load out 0 (outLen - sessHmacLen))
      return store out (outLen - sessHmacLen) hmac.val

def linkLayerSessKeyEncrypt (data : List UInt8) : Except IotcRet (List UInt8) :=
  if data = [] then .error .errParamInvalid
  else do
    let cmdParam ← sessKeyCmdParam data
    let outLen := sessOutLen data cmdParam
    if env.mem outLen = false then .error .memErrCalloc
    else
      let out ← sessKeyFill env data cmdParam (fun _ => 0) outLen
      return load out 0 outLen

def linkLayerSessKeyEncryptInto (data : List UInt8) (out : LinkLayerEncryptOut) : Except IotcRet Written :=
  if data = [] then .error .errParamInvalid
  else do
    let cmdParam ← sessKeyCmdParam data
    let needed := sessOutLen data cmdParam
    if out.buffCap < needed then .error .errParamInvalid
    else
      let buff ← sessKeyFill env data cmdParam (store out.buff 0 (List.replicate needed 0)) needed
      return (buff, needed)

/-- `LinkLayerSessKeyDecrypt` behind the checks of the lengths. -/
def sessKeyOpen (data : ℕ → UInt8) (dataLen : ℕ) (cmdParam : BtCmdParam) : Except IotcRet Written :=
  let svcHeaderLen := dataLen - sessHmacLen - cmdParam.request.length
  let decBodyLen := cmdParam.request.length - sessTagLen - sessIvLen - sessIdLen
  let outLen := svcHeaderLen + decBodyLen
  if env.mem outLen = false then .error .memErrCalloc
  else
    match memcpyS (fun _ => 0) 0 outLen (load data 0 svcHeaderLen) with
    | none => .error .errSecurecMemcpy
    | some out =>
      if svcHeaderLen < svcPayloadLenLen then .error .bleLlErrBody
      else do
        let out := store out (svcHeaderLen - svcPayloadLenLen) (payloadLenBytes decBodyLen)
        let decrypt ← callback env.sessKeyDecrypt
        let body ← decrypt cmdParam.request (outLen - svcHeaderLen)
        let out := store out svcHeaderLen body.val
        match memcpyS data 0 dataLen (load out 0 outLen) with
        | none => .error .errSecurecMemcpy
        | some data => return (if outLen < dataLen then store data outLen [0] else data, outLen)

def linkLayerSessKeyDecrypt (data : ℕ → UInt8) (dataLen : ℕ) : Except IotcRet Written :=
  if ¬ sessHmacLen < dataLen then .error .errParamInvalid
  else do
    let checkHmac ← callback env.sessKeyCheckHmac
    let ret := checkHmac (load data 0 (dataLen - sessHmacLen)) (load data (dataLen - sessHmacLen) sessHmacLen)
    if ret ≠ .ok then .error ret
    else
      let cmdParam ← decodeCmdData (load data 0 (dataLen - sessHmacLen))
      if cmdParam.request = [] then .error .bleLlErrBody
      else if ¬ (sessTagLen + sessIvLen + sessIdLen < cmdParam.request.length ∧
          cmdParam.request.length < dataLen - sessHmacLen) then .error .bleLlErrBody
      else sessKeyOpen env data dataLen cmdParam

/-! ## SPEKE -/

/-- From the random IV on: the version, the IV, the data encrypted, the tag. -/
def spekeFill (session : SpekeSession) (data : List UInt8) (out : ℕ → UInt8) (needed : ℕ) :
    Except IotcRet (ℕ → UInt8) := do
  let iv ← env.random
  let out := store out gcmVerLen iv.val
  let (cipher, tag) ← env.aesGcmEncrypt session.dataEncKey (load out gcmVerLen gcmIvLen) data
  let out := store out (gcmVerLen + gcmIvLen) cipher.val
  let out := store out (needed - gcmTagLen) tag.val
  return store out 0 [gcmVersion]

def spekeEncryptData (session : SpekeSession) (data : List UInt8) : Except IotcRet (List UInt8) :=
  if data = [] ∨ spekeDecDataMaxLen < data.length then .error .errParamInvalid
  else
    let outDataLen := data.length + spekeEncDataMinLen
    if env.mem outDataLen = false then .error .memErrMalloc
    else do
      let out ← spekeFill env session data (fun _ => 0) outDataLen
      return load out 0 outDataLen

def spekeEncryptDataInto (session : SpekeSession) (data : List UInt8) (out : LinkLayerEncryptOut) :
    Except IotcRet Written :=
  if data = [] ∨ spekeDecDataMaxLen < data.length then .error .errParamInvalid
  else
    let needed := data.length + spekeEncDataMinLen
    if out.buffCap < needed then .error .errParamInvalid
    else do
      let buff ← spekeFill env session data (store out.buff 0 (List.replicate needed 0)) needed
      return (buff, needed)

/-- `SpekeDecryptDataTo`; `out` may be the buffer of the data itself. -/
def spekeDecryptDataTo (session : SpekeSession) (data : ℕ → UInt8) (dataLen : ℕ) (out : LinkLayerEncryptOut) :
    Except IotcRet Written :=
  if dataLen ≤ spekeEncDataMinLen then .error .errParamInvalid
  else
    let outDataLen := dataLen - spekeEncDataMinLen
    if out.buffCap < outDataLen then .error .errParamInvalid
    else do
      let plain ← env.aesGcmDecrypt session.dataEncKey (load data gcmVerLen gcmIvLen)
        (load data (gcmVerLen + gcmIvLen) outDataLen) (load data (dataLen - gcmTagLen) gcmTagLen)
      return (store out.buff 0 plain.val, outDataLen)

def spekeDecryptDataInPlace (session : SpekeSession) (data : ℕ → UInt8) (dataLen : ℕ) : Except IotcRet Written :=
  if dataLen ≤ spekeEncDataMinLen then .error .errParamInvalid
  else spekeDecryptDataTo env session data dataLen ⟨data, dataLen - spekeEncDataMinLen⟩

def spekeDecryptData (session : SpekeSession) (data : List UInt8) : Except IotcRet (List UInt8) :=
  if data.length ≤ spekeEncDataMinLen then .error .errParamInvalid
  else
    let binCap := data.length - spekeEncDataMinLen
    if env.mem binCap = false then .error .memErrMalloc
    else do
      let dst ← spekeDecryptDataTo env session (ofList data 0) data.length ⟨fun _ => 0, binCap⟩
      return dst.bytes

def getLinkLayerSpekeSession : Except IotcRet SpekeSession :=
  match env.session with
  | none => .error .bleLlErrSpekeNull
  | some session => .ok session

def linkLayerSpekeEncrypt (data : List UInt8) : Except IotcRet (List UInt8) :=
  if data = [] then .error .errParamInvalid
  else do
    let session ← getLinkLayerSpekeSession env
    spekeEncryptData env session data

def linkLayerSpekeEncryptInto (data : List UInt8) (out : LinkLayerEncryptOut) : Except IotcRet Written :=
  if data = [] then .error .errParamInvalid
  else do
    let session ← getLinkLayerSpekeSession env
    spekeEncryptDataInto env session data out

def linkLayerSpekeDecrypt (data : ℕ → UInt8) (dataLen : ℕ) : Except IotcRet Written := do
  let session ← getLinkLayerSpekeSession env
  let (data, decDataLen) ← spekeDecryptDataInPlace env session data dataLen
  return (if decDataLen < dataLen then store data decDataLen [0] else data, decDataLen)

/-! ## The handlers -/

def maxMallocCopyLen : ℕ := 64 * 1024

/-- `UnencryptedBuffEnc`, with `UtilsMallocCopy`. -/
def unencryptedBuffEnc (data : List UInt8) : Except IotcRet (List UInt8) :=
  if data = [] ∨ maxMallocCopyLen < data.length ∨ env.mem data.length = false then .error .memErrMalloc else .ok data

def linkLayerEncryptData (data : List UInt8) (encryptType : LinkLayerEncryptType) : Except IotcRet (List UInt8) :=
  if data = [] then .error .errParamInvalid
  else
    match encryptType with
    | .unencrypted => unencryptedBuffEnc env data
    | .speke => linkLayerSpekeEncrypt env data
    | .sesskey => linkLayerSessKeyEncrypt env data
    | .sts | .null => .error .bleLlErrEncryptType

def linkLayerEncryptDataInto (data : List UInt8) (encryptType : LinkLayerEncryptType) (out : LinkLayerEncryptOut) :
    Except IotcRet Written :=
  if data = [] then .error .errParamInvalid
  else
    match encryptType with
    | .unencrypted =>
      if out.buffCap < data.length then .error .errParamInvalid
      else
        match memcpyS out.buff 0 out.buffCap data with
        | none => .error .errSecurecMemcpy
        | some buff => .ok (buff, data.length)
    | .speke => linkLayerSpekeEncryptInto env data out
    | .sesskey => linkLayerSessKeyEncryptInto env data out
    | .sts | .null => .error .bleLlErrEncryptType

def linkLayerDecryptData (data : ℕ → UInt8) (dataLen : ℕ) (encryptType : LinkLayerEncryptType) :
    Except IotcRet Written :=
  match encryptType with
  | .unencrypted => .ok (data, dataLen)
  | .speke => linkLayerSpekeDecrypt env data dataLen
  | .sesskey => linkLayerSessKeyDecrypt env data dataLen
  | .sts | .null => .error .bleLlErrEncryptType

end

end IotConnect.LinkLayer
