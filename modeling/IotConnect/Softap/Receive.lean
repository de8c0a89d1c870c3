import IotConnect.Coap.TcpV1
import IotConnect.Coap.Udp
import IotConnect.Endpoint.Server
import IotConnect.LinkLayer.Encrypt
import IotConnect.Softap.Session

/-! # Receiving a message of the SoftAP service (`svc_softap_coap.c`)

A message that comes in is decoded, its peer is looked up by the address, and the payload is decoded from base64
and decrypted with the key of the peer before the endpoint calls the handler of the resource. The negotiation of
the key is exempt, which is decided by the path of the URI alone. -/
namespace IotConnect.Softap
open Bytes Coap Endpoint LinkLayer Memory Speke Transport
set_option autoImplicit false

/-- The adapter for base64: the size that is asked for first, and the result. -/
structure Base64 where
  decodeLen : List UInt8 → Option ℕ
  decode : List UInt8 → Option (List UInt8)
  encodeLen : List UInt8 → Option ℕ
  encode : List UInt8 → Option (List UInt8)

structure SoftapRecvEnv where
  addr : SocketAddr
  peer : PeerEnv
  encrypt : EncryptEnv
  /-- Whether there is memory for so many bytes of base64. -/
  calloc : ℕ → Bool
  /-- The packet is one that was answered before, by `CoapEndpointRecvPacketRetransProcess`. -/
  retrans : Bool
  /-- The lock of the endpoint. -/
  lock : Bool
  /-- What the client of the endpoint returns for a packet that is no request. -/
  respRet : IotcRet

/-! ## The resources -/

inductive SoftapHandler
  | speke
  | setup
  | e2eCtrl
  deriving DecidableEq

def strUriSpeke : List UInt8 := ascii "SPEKE"
def strUriCloudSetupV2 : List UInt8 := ascii "CloudSetup/v2"
def strE2eControl : List UInt8 := ascii "e2eCtrl"

def plainUri : List (List UInt8) := [strUriSpeke]
def noBase64Uri : List (List UInt8) := [strUriSpeke]

/-- The bits of `SoftapSvcInitParam` that `SoftapCoapEndpointSetup` looks at. -/
structure SoftapSvcInitParam where
  netcfg : Bool
  e2eCtrl : Bool

def postResource (uri : List UInt8) (handler : SoftapHandler) : CoapResource SoftapHandler :=
  ⟨[coapMethodTypePost], uri, none, some handler⟩

def softapServer (param : SoftapSvcInitParam) : CoapEndpointServer SoftapHandler where
  resList := [[postResource strUriSpeke .speke],
    if param.netcfg then [postResource strUriCloudSetupV2 .setup] else [],
    if param.e2eCtrl then [postResource strE2eControl .e2eCtrl] else []]
  globalChecker := none
  defaultHandler := none

/-! ## The chain -/

/-- A message with the buffer it points into, and the peers. -/
structure SoftapMsg where
  packet : CoapPacket
  buf : CoapBuffer
  peerSess : List SoftapPeerSess

def SoftapMsg.raw (msg : SoftapMsg) : CoapRaw := ⟨msg.buf.buffer, msg.buf.len⟩

def SoftapMsg.payload (msg : SoftapMsg) : List UInt8 := msg.raw.read msg.packet.payload

structure Invocation where
  handler : SoftapHandler
  msg : SoftapMsg

structure RecvState where
  msg : SoftapMsg
  invoked : Option Invocation

def onMsg (handler : SoftapMsg → SessCode × SoftapMsg) (s : RecvState) : SessCode × RecvState :=
  let (code, msg) := handler s.msg
  (code, { s with msg := msg })

def sessMsgProcessCheck (msg : SoftapMsg) : Bool :=
  msg.buf.len ≠ 0 ∧ msg.buf.len ≤ msg.buf.size ∧ msg.packet.payload.len ≤ msg.buf.len

/-- `CoapUtilsReplacePayload` at the end of a handler. -/
def replacePayload (msg : SoftapMsg) (payload : List UInt8) : SessCode × SoftapMsg :=
  let (ret, packet, buf) := coapUtilsReplacePayload msg.packet msg.buf payload
  if ret ≠ .ok then (.err, msg) else (.continue, { msg with packet := packet, buf := buf })

variable (base64 : Base64) (env : SoftapRecvEnv) (param : SoftapSvcInitParam)

def sessMsgProcessCoapDecode (msg : SoftapMsg) : SessCode × SoftapMsg :=
  match coapUdpDecode msg.packet msg.raw with
  | .error _ => (.err, msg)
  | .ok packet => (.continue, { msg with packet := packet })

def softapCoapMsgRecvPreProcess (msg : SoftapMsg) : SessCode × SoftapMsg :=
  if sessMsgProcessCheck msg = false then (.err, msg)
  else
    match softapGetPeerSessCreateIfNotExist env.peer msg.peerSess env.addr with
    | (none, peerSess) => (.err, { msg with peerSess := peerSess })
    | (some (i, peer), peerSess) =>
      match coapUtilsGetUriPath msg.packet msg.raw coapUriMaxLen with
      | .error _ => (.err, { msg with peerSess := peerSess })
      | .ok path =>
        let bits : MsgBits := ⟨cString path ∈ plainUri, cString path ∈ noBase64Uri⟩
        (.continue, { msg with peerSess := peerSess.set i { peer with recvBitMap := bits } })

def softapCoapMsgRecvBase64DecodeProcess (msg : SoftapMsg) : SessCode × SoftapMsg :=
  if sessMsgProcessCheck msg = false then (.err, msg)
  else
    match softapGetPeerSess msg.peerSess env.addr with
    | none => (.err, msg)
    | some (_, peer) =>
      if peer.recvBitMap.noBase64 then (.continue, msg)
      else
        match base64.decodeLen msg.payload with
        | none => (.err, msg)
        | some len =>
          if len > msg.packet.payload.len then (.err, msg)
          else if env.calloc len = false then (.err, msg)
          else
            match base64.decode msg.payload with
            | none => (.err, msg)
            | some decodeData => replacePayload msg decodeData

def softapCoapMsgRecvDecryptProcess (msg : SoftapMsg) : SessCode × SoftapMsg :=
  if sessMsgProcessCheck msg = false then (.err, msg)
  else
    match softapGetPeerSess msg.peerSess env.addr with
    | none => (.err, msg)
    | some (_, peer) =>
      if peer.recvBitMap.plain then (.continue, msg)
      else
        match peer.speke with
        | none => (.err, msg)
        | some speke =>
          if peer.spekeSessCreated = false then (.err, msg)
          else
            match spekeDecryptData env.encrypt speke msg.payload with
            | .error _ => (.err, msg)
            | .ok decData => if decData.length = 0 then (.err, msg) else replacePayload msg decData

/-- `SessMsgProcessCoapEndpoint` with `CoapEndpointRecvPacket`. -/
def sessMsgProcessCoapEndpoint (s : RecvState) : SessCode × RecvState :=
  -- `false` is the number of `SESS_CODE_OK`
  if s.msg.buf.len = 0 ∨ s.msg.buf.size < s.msg.buf.len then (.ok, s)
  else if isRequest s.msg.packet then
    if env.retrans then (.continue, s)
    else
      let (ret, handler) := coapEndpointServerRecvReqPacket env.lock (softapServer param) s.msg.packet s.msg.raw
      (if ret = .ok then .continue else .err, { s with invoked := handler.map (⟨·, s.msg⟩) })
  else (if env.respRet = .ok then .continue else .err, s)

/-- The chain as `SoftapSessionSetup` and `CoapEndpointSessSetup` put it together. -/
def softapRecvCor : List (RecvState → SessCode × RecvState) :=
  [onMsg sessMsgProcessCoapDecode, onMsg (softapCoapMsgRecvPreProcess env),
    onMsg (softapCoapMsgRecvBase64DecodeProcess base64 env), onMsg (softapCoapMsgRecvDecryptProcess env),
    sessMsgProcessCoapEndpoint env param]

/-- `TransSessMsgRecv` of the session: the handler that is called, and the peers. -/
def softapMsgRecv (peerSess : List SoftapPeerSess) (buf : CoapBuffer) : Option Invocation × List SoftapPeerSess :=
  if ¬ buf.len < buf.size then (none, peerSess)
  else
    let s := (transSessMsgCorNodeProcess (softapRecvCor base64 env param) ⟨⟨CoapPacket.init, buf, peerSess⟩, none⟩).2
    (s.invoked, s.msg.peerSess)

/-! ## One handler -/

variable {base64 env param}

variable {msg : SoftapMsg}

theorem onMsg_continue {handler : SoftapMsg → SessCode × SoftapMsg} {corList : List (RecvState → SessCode × RecvState)}
    {inv : Invocation}
    (h : (transSessMsgCorNodeProcess (onMsg handler :: corList) ⟨msg, none⟩).2.invoked = some inv) :
    ∃ msg', handler msg = (.continue, msg') ∧ (transSessMsgCorNodeProcess corList ⟨msg', none⟩).2.invoked = some inv := by
  rcases hhandler : handler msg with ⟨code, msg'⟩
  have hrun : onMsg handler ⟨msg, none⟩ = (code, ⟨msg', none⟩) := by
    rw [onMsg, hhandler]
  by_cases hcode : code = .continue
  · subst hcode
    rw [transSessMsgCorNodeProcess_continue hrun] at h
    exact ⟨msg', rfl, h⟩
  · rw [transSessMsgCorNodeProcess_end hrun hcode] at h
    cases h

variable {msg' : SoftapMsg}

theorem replacePayload_continue {payload : List UInt8} (h : replacePayload msg payload = (.continue, msg')) :
    msg'.payload = payload ∧ msg'.peerSess = msg.peerSess := by
  unfold replacePayload at h
  rcases hreplace : coapUtilsReplacePayload msg.packet msg.buf payload with ⟨ret, packet, buf⟩
  rw [hreplace] at h
  dsimp only at h
  split at h
  · cases h
  · rename_i hret
    rw [not_not.mp hret] at hreplace
    cases h
    exact ⟨(coapUtilsReplacePayload_ok hreplace).1, rfl⟩

theorem sessMsgProcessCoapDecode_continue (h : sessMsgProcessCoapDecode msg = (.continue, msg')) :
    ∃ packet, coapUdpDecode msg.packet msg.raw = .ok packet ∧ msg' = { msg with packet := packet } := by
  unfold sessMsgProcessCoapDecode at h
  cases hdecode : coapUdpDecode msg.packet msg.raw with
  | error ret =>
    rw [hdecode] at h
    cases h
  | ok packet =>
    rw [hdecode] at h
    cases h
    exact ⟨packet, rfl, rfl⟩

/-- The peer of a message has a slot now, with what the path exempts the message from; a session it has is one
that it had before. -/
theorem recvPreProcess_continue (h : softapCoapMsgRecvPreProcess env msg = (.continue, msg')) :
    ∃ i peer path, msg' = { msg with peerSess := msg'.peerSess } ∧
      coapUtilsGetUriPath msg.packet msg.raw coapUriMaxLen = .ok path ∧
      softapGetPeerSess msg'.peerSess env.addr =
        some (i, { peer with recvBitMap := ⟨cString path ∈ plainUri, cString path ∈ noBase64Uri⟩ }) ∧
      (softapGetPeerSess msg.peerSess env.addr = some (i, peer) ∨ peer.spekeSessCreated = false) := by
  unfold softapCoapMsgRecvPreProcess at h
  split at h
  · cases h
  split at h
  · cases h
  rename_i i peer peerSess hcreate
  obtain ⟨hfind, hactive, haddr, rfl, hold⟩ := softapGetPeerSessCreateIfNotExist_some hcreate
  split at h
  · cases h
  rename_i path hpath
  cases h
  refine ⟨i, peer, path, rfl, hpath, ?_, hold⟩
  dsimp only
  rw [List.set_set]
  exact softapGetPeerSess_set hfind hactive haddr

theorem recvBase64Decode_continue {i : ℕ} {peer : SoftapPeerSess}
    (hpeer : softapGetPeerSess msg.peerSess env.addr = some (i, peer))
    (h : softapCoapMsgRecvBase64DecodeProcess base64 env msg = (.continue, msg')) :
    if peer.recvBitMap.noBase64 then msg' = msg
    else base64.decode msg.payload = some msg'.payload ∧ msg'.peerSess = msg.peerSess := by
  unfold softapCoapMsgRecvBase64DecodeProcess at h
  rw [hpeer] at h
  dsimp only at h
  split at h
  · cases h
  split at h
  · rename_i hbit
    cases h
    rw [if_pos hbit]
  rename_i hbit
  rw [if_neg hbit]
  split at h
  · cases h
  split at h
  · cases h
  split at h
  · cases h
  split at h
  · cases h
  · rename_i decodeData hdecode
    obtain ⟨hpayload, hpeerSess⟩ := replacePayload_continue h
    rw [hdecode, hpayload]
    exact ⟨rfl, hpeerSess⟩

theorem recvDecrypt_continue {i : ℕ} {peer : SoftapPeerSess}
    (hpeer : softapGetPeerSess msg.peerSess env.addr = some (i, peer))
    (h : softapCoapMsgRecvDecryptProcess env msg = (.continue, msg')) :
    if peer.recvBitMap.plain then msg' = msg
    else peer.spekeSessCreated = true ∧
      ∃ speke, peer.speke = some speke ∧ spekeDecryptData env.encrypt speke msg.payload = .ok msg'.payload := by
  unfold softapCoapMsgRecvDecryptProcess at h
  rw [hpeer] at h
  dsimp only at h
  split at h
  · cases h
  split at h
  · rename_i hbit
    cases h
    rw [if_pos hbit]
  rename_i hbit
  rw [if_neg hbit]
  split at h
  · cases h
  rename_i speke hspeke
  split at h
  · cases h
  rename_i hcreated
  split at h
  · cases h
  rename_i decData hdec
  split at h
  · cases h
  · obtain ⟨hpayload, -⟩ := replacePayload_continue h
    rw [hpayload]
    exact ⟨by simpa using hcreated, speke, hspeke, hdec⟩

theorem endpoint_invoked {inv : Invocation}
    (h : (sessMsgProcessCoapEndpoint env param ⟨msg, none⟩).2.invoked = some inv) :
    inv.msg = msg ∧ ∃ res ∈ (softapServer param).resList.flatten,
      coapUriString msg.packet msg.raw = .ok res.uri ∧ res.handler = some inv.handler := by
  unfold sessMsgProcessCoapEndpoint at h
  split at h
  · cases h
  split at h
  · split at h
    · cases h
    · dsimp only at h
      obtain ⟨handler, hhandler, rfl⟩ := Option.map_eq_some_iff.mp h
      exact ⟨rfl, recvReqPacket_resource hhandler rfl⟩
  · cases h

/-! ## Every message -/

theorem handler_of_speke_path {res : CoapResource SoftapHandler} (hres : res ∈ (softapServer param).resList.flatten)
    (huri : strUriSpeke <+: res.uri) : res.handler = some .speke := by
  have hmem : res = postResource strUriSpeke .speke ∨ res = postResource strUriCloudSetupV2 .setup ∨
      res = postResource strE2eControl .e2eCtrl := by
    simp only [softapServer, List.flatten_cons, List.flatten_nil, List.append_nil, List.mem_append,
      List.mem_singleton] at hres
    rcases hres with hres | hres | hres
    · exact .inl hres
    · split at hres
      · exact .inr (.inl (List.mem_singleton.mp hres))
      · cases hres
    · split at hres
      · exact .inr (.inr (List.mem_singleton.mp hres))
      · cases hres
  rcases hmem with rfl | rfl | rfl
  · rfl
  · exact absurd huri (by decide)
  · exact absurd huri (by decide)

theorem handler_of_path {pkt : CoapPacket} {raw : CoapRaw} {path : List UInt8} {res : CoapResource SoftapHandler}
    (hpath : coapUtilsGetUriPath pkt raw coapUriMaxLen = .ok path) (hspeke : cString path = strUriSpeke)
    (huri : coapUriString pkt raw = .ok res.uri) (hres : res ∈ (softapServer param).resList.flatten) :
    res.handler = some .speke := by
  rw [coapUriString] at huri
  cases hget : coapUtilsGetUri pkt raw coapUriMaxLen with
  | error ret =>
    rw [hget] at huri
    cases huri
  | ok uri =>
    rw [hget] at huri
    have hstring : cString uri = res.uri := Except.ok.inj huri
    refine handler_of_speke_path hres ?_
    rw [← hspeke, ← hstring]
    exact cString_prefix (coapUtilsGetUri_path hpath hget)

/-- The payload `handed` to a handler was decrypted in the finished session of the peer at an address. -/
def InSession (base64 : Base64) (env : SoftapRecvEnv) (peerSess : List SoftapPeerSess)
    (received handed : List UInt8) : Prop :=
  ∃ peer ∈ peerSess, peer.linkActive = true ∧ peer.addrInfo.addr = env.addr.addr ∧ peer.spekeSessCreated = true ∧
    ∃ speke, peer.speke = some speke ∧
      ∃ enc, base64.decode received = some enc ∧ spekeDecryptData env.encrypt speke enc = .ok handed

/-- A handler other than that of the negotiation is called with a payload that was decrypted in a session. -/
theorem handler_in_session (base64 : Base64) (env : SoftapRecvEnv) (param : SoftapSvcInitParam)
    (peerSess : List SoftapPeerSess) (buf : CoapBuffer) (inv : Invocation)
    (h : (softapMsgRecv base64 env param peerSess buf).1 = some inv) (hspeke : inv.handler ≠ .speke) :
    ∃ pkt, coapUdpDecode CoapPacket.init ⟨buf.buffer, buf.len⟩ = .ok pkt ∧
      InSession base64 env peerSess (CoapRaw.read ⟨buf.buffer, buf.len⟩ pkt.payload) inv.msg.payload := by
  unfold softapMsgRecv at h
  split at h
  · cases h
  obtain ⟨msg₁, h₁, h⟩ := onMsg_continue h
  obtain ⟨msg₂, h₂, h⟩ := onMsg_continue h
  obtain ⟨msg₃, h₃, h⟩ := onMsg_continue h
  obtain ⟨msg₄, h₄, h⟩ := onMsg_continue h
  rw [transSessMsgCorNodeProcess_single] at h
  obtain ⟨rfl, res, hres, huri, hhandler⟩ := endpoint_invoked h
  obtain ⟨pkt, hdecode, rfl⟩ := sessMsgProcessCoapDecode_continue h₁
  obtain ⟨i, peer, path, hmsg₂, hpath, hpeer, hold⟩ := recvPreProcess_continue h₂
  have hbase := recvBase64Decode_continue hpeer h₃
  refine ⟨pkt, hdecode, ?_⟩
  by_cases hwhite : cString path = strUriSpeke
  · -- nothing rewrites the message, so that the endpoint sees the URI whose path was looked at
    rw [if_pos (by simp [noBase64Uri, hwhite])] at hbase
    subst hbase
    have hplain := recvDecrypt_continue hpeer h₄
    rw [if_pos (by simp [plainUri, hwhite])] at hplain
    rw [hplain, hmsg₂] at huri
    exact absurd (Option.some.inj (hhandler.symm.trans (handler_of_path hpath hwhite huri hres))) hspeke
  · rw [if_neg (by simp [noBase64Uri, hwhite])] at hbase
    obtain ⟨hdecoded, hpeerSess⟩ := hbase
    rw [← hpeerSess] at hpeer
    have hcipher := recvDecrypt_continue hpeer h₄
    rw [if_neg (by simp [plainUri, hwhite])] at hcipher
    obtain ⟨hcreated, speke, hsession, hdecrypted⟩ := hcipher
    rcases hold with hold | hnew
    · obtain ⟨hmem, hactive, haddr⟩ := softapGetPeerSess_spec hold
      rw [hmsg₂] at hdecoded
      exact ⟨peer, hmem, hactive, haddr, hcreated, speke, hsession, _, hdecoded, hdecrypted⟩
    · rw [hnew] at hcreated
      cases hcreated

def sampleEncryptEnv : EncryptEnv where
  session := none
  sessKeyExist := false
  random := .ok (.zero _)
  aesGcmEncrypt := fun _ _ data => .ok (Block.ofList data, .zero _)
  aesGcmDecrypt := fun _ _ data _ => .ok (Block.ofList data)
  sessKeyEncrypt := none
  sessKeyDecrypt := none
  sessKeyCalHmac := none
  sessKeyCheckHmac := none
  mem := fun _ => true

def sampleBase64 : Base64 where
  decodeLen := fun data => some data.length
  decode := some
  encodeLen := fun data => some data.length
  encode := some

def sampleAddr : SocketAddr := ⟨5683, 0x0102A8C0⟩

def sampleSpeke : SpekeSession := ⟨.server, true, ascii "12345678", none, .zero _⟩

def samplePeer : SoftapPeerSess := ⟨true, true, sampleAddr, .clear, .clear, some sampleSpeke⟩

def sampleRecvEnv : SoftapRecvEnv where
  addr := sampleAddr
  peer := ⟨.ok [], true⟩
  encrypt := sampleEncryptEnv
  calloc := fun _ => true
  retrans := false
  lock := true
  respRet := .ok

/-- A POST to `e2eCtrl` with 30 bytes of payload. -/
def sampleCtrlBytes : List UInt8 :=
  [0x50, 0x02, 0x00, 0x01, 0xB7] ++ strE2eControl ++ [0xFF] ++ List.replicate 30 1

def sampleCtrlBuffer : CoapBuffer := ⟨ofList sampleCtrlBytes 0, 128, sampleCtrlBytes.length⟩

theorem sample_ctrl_in_session : ∃ (inv : Invocation) (pkt : CoapPacket),
    (softapMsgRecv sampleBase64 sampleRecvEnv ⟨true, true⟩ [samplePeer] sampleCtrlBuffer).1 = some inv ∧
      inv.handler ≠ .speke ∧
      InSession sampleBase64 sampleRecvEnv [samplePeer]
        (CoapRaw.read ⟨sampleCtrlBuffer.buffer, sampleCtrlBuffer.len⟩ pkt.payload) inv.msg.payload := by
  have hcalled : (softapMsgRecv sampleBase64 sampleRecvEnv ⟨true, true⟩ [samplePeer] sampleCtrlBuffer).1.map
      Invocation.handler = some .e2eCtrl := by decide
  obtain ⟨inv, hinv, hhandler⟩ := Option.map_eq_some_iff.mp hcalled
  have hspeke : inv.handler ≠ .speke := by
    rw [hhandler]
    decide
  obtain ⟨pkt, -, hsession⟩ := handler_in_session _ _ _ _ _ inv hinv hspeke
  exact ⟨inv, pkt, hinv, hspeke, hsession⟩

end IotConnect.Softap
