import IotConnect.Coap.TcpV1
import IotConnect.Coap.Udp
import IotConnect.Endpoint.Server
import IotConnect.LocalControl.Client
import IotConnect.Transport.Session

/-! # Receiving a message of local control (`local_ctl_sess.c`, `local_ctl_coap_stack.c`)

A message that comes in is decoded, looked up by its session id, decoded from base64 and decrypted before the
endpoint calls the handler of its resource. Search and negotiation are exempt. The ciphers are parameters. -/
namespace IotConnect.LocalControl
open Bytes Coap Endpoint Memory Transport
set_option autoImplicit false

def localCtlGcmIvLen : ℕ := 12
def localCtlGcmTagLen : ℕ := 16

/-- The adapters for base64, where the size is asked for first and no text is refused, and for AES-GCM, where
the plaintext is as long as the ciphertext. -/
structure SessCrypto where
  base64Size : List UInt8 → Option ℕ
  base64Decode : List UInt8 → Option (List UInt8)
  gcmDecrypt : (key iv data tag : List UInt8) → Option (List UInt8)
  base64Decode_nil : base64Decode [] = none
  gcmDecrypt_length : ∀ key iv data tag p, gcmDecrypt key iv data tag = some p → p.length = data.length

structure SessEnv where
  addr : UInt32
  /-- The allocations for base64 and for the plaintext. -/
  callocBase64 : Bool
  callocDec : Bool
  /-- What is in memory where `sessIdStr` is put and behind it. -/
  stack : ℕ → UInt8
  /-- The packet is one that was answered before, by `CoapEndpointRecvPacketRetransProcess`. -/
  retrans : Bool
  /-- The lock of the endpoint. -/
  lock : Bool
  /-- What the client of the endpoint returns for a packet that is no request. -/
  respRet : IotcRet

structure LocalCoapSessMsg where
  packet : CoapPacket
  /-- `LOCAL_COAP_PLAIN` of `bitMap`. -/
  plain : Bool
  /-- The client as it was looked up: its session id and its keys stay. -/
  client : Option LocalControlClient

/-! ## The resources -/

inductive LocalHandler
  | search
  | svcGet
  | svc
  | sessMngr
  | control
  deriving DecidableEq

def strUriLocalControlSearch : List UInt8 := ascii ".well-known/core?st=ohLocalControl"
def strUriLocalControlSessMngr : List UInt8 := ascii ".sys/sessMngr"
def strE2eControl : List UInt8 := ascii "e2eCtrl"

def localCtlWhiteList : List (List UInt8) := [strUriLocalControlSearch, strUriLocalControlSessMngr]

def localResource (method : UInt8) (uri : List UInt8) (handler : LocalHandler) : CoapResource LocalHandler :=
  ⟨[method], uri, none, some handler⟩

def localCtlCoapRes : List (CoapResource LocalHandler) :=
  [localResource coapMethodTypeGet strUriLocalControlSearch .search,
    localResource coapMethodTypeGet (ascii "switch") .svcGet,
    localResource coapMethodTypePost (ascii "switch") .svc,
    localResource coapMethodTypeGet (ascii "restart") .svcGet,
    localResource coapMethodTypePost (ascii "resatrt") .svc,
    localResource coapMethodTypeGet (ascii "snw") .svcGet,
    localResource coapMethodTypePost (ascii "snw") .svc,
    localResource coapMethodTypeGet (ascii "gps") .svcGet,
    localResource coapMethodTypePost (ascii "gps") .svc,
    localResource coapMethodTypeGet (ascii "devNetInfo") .svcGet,
    localResource coapMethodTypePost (ascii "devNetInfo") .svc,
    localResource coapMethodTypePost strUriLocalControlSessMngr .sessMngr,
    localResource coapMethodTypePost strE2eControl .control]

def localCtlServer : CoapEndpointServer LocalHandler := ⟨[localCtlCoapRes], none, none⟩

/-! ## The chain -/

/-- The call of a handler: the message and the buffer it points into. -/
structure Invocation where
  handler : LocalHandler
  msg : LocalCoapSessMsg
  buf : CoapBuffer

def bufferRaw (buf : CoapBuffer) : CoapRaw := ⟨buf.buffer, buf.len⟩

def Invocation.payload (inv : Invocation) : List UInt8 := (bufferRaw inv.buf).read inv.msg.packet.payload

structure RecvState where
  msg : LocalCoapSessMsg
  buf : CoapBuffer
  ctx : LocalControlContext
  invoked : Option Invocation

variable (crypto : SessCrypto) (env : SessEnv)

def sessMsgProcessCoapDecode (s : RecvState) : SessCode × RecvState :=
  match coapUdpDecode s.msg.packet (bufferRaw s.buf) with
  | .error _ => (.err, s)
  | .ok pkt => (.continue, { s with msg := { s.msg with packet := pkt } })

def localSessMsgCheck (buf : CoapBuffer) : Bool := buf.len ≠ 0 ∧ buf.len ≤ buf.size

def localCtlSessMsgPlainCheck (msg : LocalCoapSessMsg) : Bool :=
  msg.plain || msg.packet.payload.data.isNone || msg.packet.payload.len = 0

/-- The key that the client is looked up with: `sessIdStr` stays cleared when the id is too long, and the
length of the key is that of the id whatever its length. -/
def sessIdKey (value : List UInt8) : List UInt8 :=
  let bufLen := 2 * localControlSessIdLen + 1
  let text := (utilsHexify value bufLen).getD []
  load (store (store env.stack 0 (List.replicate bufLen 0)) 0 text) 0 (2 * value.length)

def localCtlSessCoapRecvPreProcess (s : RecvState) : SessCode × RecvState :=
  if localSessMsgCheck s.buf = false then (.err, s)
  else if coapUriWhiteListMatch s.msg.packet (bufferRaw s.buf) localCtlWhiteList then
    (.continue, { s with msg := { s.msg with plain := true } })
  else
    match coapSingleOption s.msg.packet (bufferRaw s.buf) coapOptionTypeSessionId with
    | none => (.err, s)
    | some value =>
      match getLocalControlClient s.ctx .sessId (sessIdKey env value) with
      | .ok (some client) => (.continue, { s with msg := { s.msg with client := some client } })
      | _ => (.err, s)

def getBase64CodecData (data : List UInt8) (maxSize : ℕ) : Option (List UInt8) :=
  match crypto.base64Size data with
  | none => none
  | some size =>
    if data = [] ∨ size = 0 ∨ maxSize < size ∨ env.callocBase64 = false then none else crypto.base64Decode data

def localCtlSessCoapRecvBase64Decode (s : RecvState) : SessCode × RecvState :=
  if localSessMsgCheck s.buf = false then (.err, s)
  else if localCtlSessMsgPlainCheck s.msg then (.continue, s)
  else
    match getBase64CodecData crypto env ((bufferRaw s.buf).read s.msg.packet.payload) s.buf.size with
    | none => (.err, s)
    | some data =>
      let (ret, packet, buf) := coapUtilsReplacePayload s.msg.packet s.buf data
      if ret ≠ .ok then (.err, s)
      else (.continue, { s with msg := { s.msg with packet := packet }, buf := buf })

def clientMapTraversalActiveUpdateAddr (sessId : Block localControlSessIdStrLen) (addr : UInt32)
    (client : LocalControlClient) : LocalControlClient :=
  if client.sessId = sessId then { client with addr := addr, active := true }
  else if client.addr = addr then { client with active := false }
  else client

theorem activeUpdateAddr_sessId (sessId : Block localControlSessIdStrLen) (addr : UInt32) (client : LocalControlClient) :
    (clientMapTraversalActiveUpdateAddr sessId addr client).sessId = client.sessId := by
  unfold clientMapTraversalActiveUpdateAddr
  split_ifs <;> rfl

def clientSessActiveUpdateAddr (ctx : LocalControlContext) (sessId : Block localControlSessIdStrLen) (addr : UInt32) :
    LocalControlContext :=
  if addr = 0 ∨ ctx.curClientNum = 0 then ctx
  else
    { ctx with clientMap := ctx.clientMap.map fun m =>
        m.mapClient (clientMapTraversalActiveUpdateAddr sessId addr) (activeUpdateAddr_sessId sessId addr) }

def localCtlSessCoapRecvDecrypt (s : RecvState) : SessCode × RecvState :=
  if localSessMsgCheck s.buf = false then (.err, s)
  else if localCtlSessMsgPlainCheck s.msg then (.continue, s)
  else
    match s.msg.client with
    | none => (.err, s)
    | some client =>
      let payload := (bufferRaw s.buf).read s.msg.packet.payload
      if payload.length ≤ localCtlGcmIvLen + localCtlGcmTagLen then (.err, s)
      else if env.callocDec = false then (.err, s)
      else
        let dataLen := payload.length - localCtlGcmIvLen - localCtlGcmTagLen
        let iv := payload.take localCtlGcmIvLen
        let data := (payload.drop localCtlGcmIvLen).take dataLen
        let tag := payload.drop (localCtlGcmIvLen + dataLen)
        match crypto.gcmDecrypt client.transKey iv data tag with
        | none => (.err, s)
        | some dec =>
          let (ret, packet, buf) := coapUtilsReplacePayload s.msg.packet s.buf dec
          if ret ≠ .ok then (.err, s)
          else
            (.continue, { s with
              msg := { s.msg with packet := packet }, buf := buf,
              ctx := clientSessActiveUpdateAddr s.ctx client.sessId env.addr })

/-- `SessMsgProcessCoapEndpoint` with `CoapEndpointRecvPacket`. -/
def sessMsgProcessCoapEndpoint (s : RecvState) : SessCode × RecvState :=
  -- `false` is the number of `SESS_CODE_OK`
  if localSessMsgCheck s.buf = false then (.ok, s)
  else if isRequest s.msg.packet then
    if env.retrans then (.continue, s)
    else
      let (ret, handler) := coapEndpointServerRecvReqPacket env.lock localCtlServer s.msg.packet (bufferRaw s.buf)
      (if ret = .ok then .continue else .err, { s with invoked := handler.map (⟨·, s.msg, s.buf⟩) })
  else (if env.respRet = .ok then .continue else .err, s)

/-- The chain as `LocalCtlSessionSetup` and `CoapEndpointSessSetup` put it together. -/
def localCtlRecvCor : List (RecvState → SessCode × RecvState) :=
  [sessMsgProcessCoapDecode, localCtlSessCoapRecvPreProcess env, localCtlSessCoapRecvBase64Decode crypto env,
    localCtlSessCoapRecvDecrypt crypto env, sessMsgProcessCoapEndpoint env]

/-- `TransSessMsgRecv` of the session of local control: the handler that is called, and the context. -/
def localCtlMsgRecv (ctx : LocalControlContext) (buf : CoapBuffer) : Option Invocation × LocalControlContext :=
  if ¬ buf.len < buf.size then (none, ctx)
  else
    let s := (transSessMsgCorNodeProcess (localCtlRecvCor crypto env) ⟨⟨CoapPacket.init, false, none⟩, buf, ctx, none⟩).2
    (s.invoked, s.ctx)

end IotConnect.LocalControl
