import IotConnect.LocalControl.Receive

/-! # Which requests reach a handler

Except for search and negotiation, what a handler is given should be the plaintext of a payload that a client
has encrypted under its key. -/
namespace IotConnect.LocalControl
open Bytes Coap Endpoint Memory Transport
set_option autoImplicit false

variable (crypto : SessCrypto) (env : SessEnv)

/-! ## What is meant -/

/-- The client is in the table under the session id `value`. -/
def KnownClient (ctx : LocalControlContext) (value : List UInt8) (client : LocalControlClient) : Prop :=
  ∃ m ∈ ctx.clientMap, client ∈ m.clients ∧ client.sessId.val = hexText value

/-- The payload `handed` is the plaintext, with a valid tag, of what was received in `pkt` under the key of the
client whose session id the packet carries. -/
def Authenticated (ctx : LocalControlContext) (pkt : CoapPacket) (raw : CoapRaw) (handed : List UInt8) : Prop :=
  ∃ value client iv data tag, coapSingleOption pkt raw coapOptionTypeSessionId = some value ∧
    KnownClient ctx value client ∧ crypto.base64Decode (raw.read pkt.payload) = some (iv ++ data ++ tag) ∧
      iv.length = localCtlGcmIvLen ∧ tag.length = localCtlGcmTagLen ∧
        crypto.gcmDecrypt client.transKey iv data tag = some handed

def LocalHandler.isOpen (h : LocalHandler) : Prop := h = .search ∨ h = .sessMngr

instance (h : LocalHandler) : Decidable h.isOpen := inferInstanceAs (Decidable (_ ∨ _))

/-- What the received bytes stand for is a request to one of the other resources with the session id of a
client and no payload. -/
structure BareRequest (ctx : LocalControlContext) (pkt : CoapPacket) (raw : CoapRaw) : Prop where
  request : isRequest pkt = true
  payload : pkt.payload.data = none ∨ pkt.payload.len = 0
  client : ctx.curClientNum ≠ 0 ∧ ∃ value client,
    coapSingleOption pkt raw coapOptionTypeSessionId = some value ∧ KnownClient ctx value client
  uri : ∃ uri, coapUriString pkt raw = .ok uri ∧ uri ∈ localCtlCoapRes.map CoapResource.uri ∧ uri ∉ localCtlWhiteList
  lock : env.lock = true
  fresh : env.retrans = false

/-! ## The session id -/

theorem sessIdKey_length (value : List UInt8) : (sessIdKey env value).length = 2 * value.length := load_length _ _ _

variable {value : List UInt8}

theorem sessIdKey_eq (h : value.length = localControlSessIdLen) : sessIdKey env value = hexText value := by
  have hne : value ≠ [] := by
    rintro rfl
    cases h
  have hle : 2 * value.length ≤ 2 * localControlSessIdLen + 1 := by omega
  unfold sessIdKey
  dsimp only
  rw [utilsHexify_eq hne hle, Option.getD_some, ← hexText_length value]
  exact load_store_self _ _ _

variable {crypto env}

variable {ctx : LocalControlContext}

theorem knownClient_of_get {client : LocalControlClient}
    (h : getLocalControlClient ctx .sessId (sessIdKey env value) = .ok (some client)) :
    ctx.curClientNum ≠ 0 ∧ KnownClient ctx value client := by
  unfold getLocalControlClient at h
  cases hmap : ctx.clientMap with
  | none =>
    rw [hmap] at h
    split_ifs at h
  | some m =>
    rw [hmap] at h
    dsimp only at h
    split_ifs at h with _ hnum
    · cases h
    have hmem := utilsHashMapGetValue_mem (Except.ok.inj h)
    have hkey : sessIdKey env value = client.sessId.val := m.property _ hmem
    have hlen : value.length = localControlSessIdLen := by
      have h32 := sessIdKey_length env value
      rw [hkey, client.sessId.property] at h32
      exact Nat.eq_of_mul_eq_mul_left (by decide) h32.symm
    rw [sessIdKey_eq env hlen] at hkey
    exact ⟨hnum, m, hmap, List.mem_map.mpr ⟨_, hmem, rfl⟩, hkey.symm⟩

theorem get_of_knownClient {client : LocalControlClient}
    (hnum : ctx.curClientNum ≠ 0) (h : KnownClient ctx value client) :
    ∃ client', getLocalControlClient ctx .sessId (sessIdKey env value) = .ok (some client') := by
  obtain ⟨m, hmap, hmem, hid⟩ := h
  obtain ⟨node, hnode, rfl⟩ := List.mem_map.mp hmem
  have hkey : node.key = hexText value := (m.property node hnode).trans hid
  have hlen : value.length = localControlSessIdLen := by
    have h32 := hexText_length value
    rw [← hid, node.value.sessId.property] at h32
    exact Nat.eq_of_mul_eq_mul_left (by decide) h32.symm
  have hne : node.key ≠ [] := by
    rw [m.property node hnode]
    exact ClientMap.sessId_ne_nil node.value
  obtain ⟨client', hget⟩ := utilsHashMapGetValue_of_mem hnode hne
  refine ⟨client', ?_⟩
  rw [sessIdKey_eq env hlen, ← hkey, getLocalControlClient, if_neg hne, Option.mem_def.mp hmap]
  dsimp only
  rw [if_neg hnum, hget]

variable (env) in
theorem recvPreProcess_client (s : RecvState) (hcheck : localSessMsgCheck s.buf = true)
    (hwhite : coapUriWhiteListMatch s.msg.packet (bufferRaw s.buf) localCtlWhiteList = false) :
    localCtlSessCoapRecvPreProcess env s = (.err, s) ∧
        (∀ value client, coapSingleOption s.msg.packet (bufferRaw s.buf) coapOptionTypeSessionId = some value →
          getLocalControlClient s.ctx .sessId (sessIdKey env value) ≠ .ok (some client)) ∨
      ∃ value client, coapSingleOption s.msg.packet (bufferRaw s.buf) coapOptionTypeSessionId = some value ∧
        getLocalControlClient s.ctx .sessId (sessIdKey env value) = .ok (some client) ∧
        localCtlSessCoapRecvPreProcess env s = (.continue, { s with msg := { s.msg with client := some client } }) := by
  rw [localCtlSessCoapRecvPreProcess, if_neg (by rw [hcheck]; decide), if_neg (by rw [hwhite]; decide)]
  cases hvalue : coapSingleOption s.msg.packet (bufferRaw s.buf) coapOptionTypeSessionId with
  | none => exact .inl ⟨rfl, nofun⟩
  | some value =>
    dsimp only
    cases hget : getLocalControlClient s.ctx .sessId (sessIdKey env value) with
    | error ret =>
      refine .inl ⟨rfl, ?_⟩
      rintro _ client ⟨⟩ hok
      rw [hget] at hok
      cases hok
    | ok client? =>
      cases client? with
      | none =>
        refine .inl ⟨rfl, ?_⟩
        rintro _ client ⟨⟩ hok
        rw [hget] at hok
        cases hok
      | some client => exact .inr ⟨value, client, rfl, hget, rfl⟩

/-! ## The endpoint -/

theorem localCtlCoapRes_open : ∀ res ∈ localCtlCoapRes, ∀ h ∈ res.handler,
    h.isOpen ↔ res.uri ∈ localCtlWhiteList := by
  decide

variable {pkt : CoapPacket} {raw : CoapRaw}

theorem dispatch_of_uri {uri : List UInt8} (huri : coapUriString pkt raw = .ok uri) :
    coapEndpointServerRecvReqPacket true localCtlServer pkt raw =
      (.ok, (localCtlCoapRes.find? fun res => res.uri = uri).bind CoapResource.handler) := by
  have hchecker : ∀ res ∈ localCtlCoapRes, res.checker = none := by
    simp [localCtlCoapRes, localResource]
  have hfound : (localCtlCoapRes.find? fun res => res.uri = uri).bind CoapResource.checker = none := by
    cases hfind : localCtlCoapRes.find? fun res => res.uri = uri with
    | none => rfl
    | some res => exact hchecker res (List.mem_of_find?_eq_some hfind)
  have hlist : localCtlServer.resList.flatten = localCtlCoapRes := by
    rw [localCtlServer, List.flatten_cons, List.flatten_nil, List.append_nil]
  unfold coapEndpointServerRecvReqPacket
  rw [huri]
  dsimp only
  rw [hlist, hfound, if_neg (by decide)]
  simp [coapReqChecker, localCtlServer]

variable {s : RecvState}

theorem sessMsgProcessCoapEndpoint_invoked {inv : Invocation}
    (h : (sessMsgProcessCoapEndpoint env s).2.invoked = some inv) (hs : s.invoked = none) : inv.msg = s.msg ∧ inv.buf = s.buf ∧
      isRequest s.msg.packet = true ∧ env.retrans = false ∧ env.lock = true ∧
        ∃ res ∈ localCtlCoapRes, coapUriString s.msg.packet (bufferRaw s.buf) = .ok res.uri ∧
          res.handler = some inv.handler := by
  unfold sessMsgProcessCoapEndpoint at h
  have hidle : ∀ {code : SessCode}, (code, s).2.invoked ≠ some inv := by
    intro _ hinv
    rw [hs] at hinv
    cases hinv
  split_ifs at h with hcheck hrequest hretrans
  · exact absurd h hidle
  · exact absurd h hidle
  · dsimp only at h
    obtain ⟨handler, hhandler, rfl⟩ := Option.map_eq_some_iff.mp h
    cases huri : coapUriString s.msg.packet (bufferRaw s.buf) with
    | error ret =>
      rw [coapEndpointServerRecvReqPacket, huri] at hhandler
      cases hhandler
    | ok uri =>
      cases hlock : env.lock with
      | false =>
        rw [hlock, coapEndpointServerRecvReqPacket, huri] at hhandler
        cases hhandler
      | true =>
        rw [hlock, dispatch_of_uri huri] at hhandler
        obtain ⟨res, hfind, hres⟩ := Option.bind_eq_some_iff.mp hhandler
        have hmatch : res.uri = uri := by simpa using List.find?_some hfind
        subst hmatch
        exact ⟨rfl, rfl, hrequest, by simpa using hretrans, rfl, res, List.mem_of_find?_eq_some hfind, rfl, hres⟩
  · exact absurd h hidle
  · exact absurd h hidle

theorem sessMsgProcessCoapEndpoint_of_uri {uri : List UInt8} (hcheck : localSessMsgCheck s.buf = true)
    (hrequest : isRequest s.msg.packet = true) (hretrans : env.retrans = false) (hlock : env.lock = true)
    (huri : coapUriString s.msg.packet (bufferRaw s.buf) = .ok uri)
    (hres : uri ∈ localCtlCoapRes.map CoapResource.uri) :
    ∃ inv, (sessMsgProcessCoapEndpoint env s).2.invoked = some inv := by
  have hsome : (localCtlCoapRes.find? fun res => res.uri = uri).isSome = true := by
    obtain ⟨res, hmem, heq⟩ := List.mem_map.mp hres
    exact List.find?_isSome.mpr ⟨res, hmem, decide_eq_true heq⟩
  obtain ⟨res, hfind⟩ := Option.isSome_iff_exists.mp hsome
  have hhandlers : ∀ res ∈ localCtlCoapRes, res.handler.isSome = true := by decide
  obtain ⟨handler, hhandler⟩ := Option.isSome_iff_exists.mp (hhandlers res (List.mem_of_find?_eq_some hfind))
  rw [sessMsgProcessCoapEndpoint, if_neg (by rw [hcheck]; decide), if_pos hrequest, if_neg (by rw [hretrans]; decide),
    hlock, dispatch_of_uri huri, hfind, Option.bind_some, hhandler]
  exact ⟨_, rfl⟩

/-! ## The payload -/

theorem recvBase64Decode_plain (hcheck : localSessMsgCheck s.buf = true)
    (hplain : localCtlSessMsgPlainCheck s.msg = true) :
    localCtlSessCoapRecvBase64Decode crypto env s = (.continue, s) := by
  rw [localCtlSessCoapRecvBase64Decode, if_neg (by rw [hcheck]; decide), if_pos hplain]

theorem recvDecrypt_plain (hcheck : localSessMsgCheck s.buf = true)
    (hplain : localCtlSessMsgPlainCheck s.msg = true) :
    localCtlSessCoapRecvDecrypt crypto env s = (.continue, s) := by
  rw [localCtlSessCoapRecvDecrypt, if_neg (by rw [hcheck]; decide), if_pos hplain]

variable (crypto env) in
theorem recvBase64Decode_cipher (s : RecvState) (hplain : localCtlSessMsgPlainCheck s.msg = false) :
    localCtlSessCoapRecvBase64Decode crypto env s = (.err, s) ∨ ∃ packet buf,
      localCtlSessCoapRecvBase64Decode crypto env s =
        (.continue, { s with msg := { s.msg with packet := packet }, buf := buf }) ∧
      crypto.base64Decode ((bufferRaw s.buf).read s.msg.packet.payload) = some ((bufferRaw buf).read packet.payload) ∧
      localCtlSessMsgPlainCheck { s.msg with packet := packet } = false := by
  unfold localCtlSessCoapRecvBase64Decode
  by_cases hcheck : localSessMsgCheck s.buf = false
  · exact .inl (if_pos hcheck)
  rw [if_neg hcheck, hplain, if_neg Bool.false_ne_true]
  cases hdata : getBase64CodecData crypto env ((bufferRaw s.buf).read s.msg.packet.payload) s.buf.size with
  | none => exact .inl rfl
  | some data =>
    have hdecode : crypto.base64Decode ((bufferRaw s.buf).read s.msg.packet.payload) = some data := by
      unfold getBase64CodecData at hdata
      split at hdata
      · cases hdata
      · split_ifs at hdata
        exact hdata
    dsimp only
    obtain ⟨ret, packet, buf, hreplace⟩ : ∃ ret packet buf,
        coapUtilsReplacePayload s.msg.packet s.buf data = (ret, packet, buf) := ⟨_, _, _, rfl⟩
    rw [hreplace]
    dsimp only
    by_cases hret : ret = .ok
    · subst hret
      obtain ⟨hread, hsome, hlen, -⟩ := coapUtilsReplacePayload_ok hreplace
      refine .inr ⟨packet, buf, rfl, by rw [hdecode, bufferRaw, hread], ?_⟩
      have hflag : s.msg.plain = false := by
        cases hp : s.msg.plain with
        | false => rfl
        | true => simp [localCtlSessMsgPlainCheck, hp] at hplain
      simp [localCtlSessMsgPlainCheck, hflag, hsome, hlen]
    · exact .inl (if_pos hret)

variable (crypto env) in
theorem recvDecrypt_cipher (s : RecvState) (hplain : localCtlSessMsgPlainCheck s.msg = false) :
    localCtlSessCoapRecvDecrypt crypto env s = (.err, s) ∨ ∃ client packet buf ctx iv data tag,
      localCtlSessCoapRecvDecrypt crypto env s =
        (.continue, { s with msg := { s.msg with packet := packet }, buf := buf, ctx := ctx }) ∧
      s.msg.client = some client ∧ (bufferRaw s.buf).read s.msg.packet.payload = iv ++ data ++ tag ∧
      iv.length = localCtlGcmIvLen ∧ tag.length = localCtlGcmTagLen ∧
      crypto.gcmDecrypt client.transKey iv data tag = some ((bufferRaw buf).read packet.payload) := by
  unfold localCtlSessCoapRecvDecrypt
  by_cases hcheck : localSessMsgCheck s.buf = false
  · exact .inl (if_pos hcheck)
  rw [if_neg hcheck, hplain, if_neg Bool.false_ne_true]
  cases hclient : s.msg.client with
  | none => exact .inl rfl
  | some client =>
    dsimp only
    generalize (bufferRaw s.buf).read s.msg.packet.payload = payload
    split_ifs with hshort
    · exact .inl rfl
    · exact .inl rfl
    rw [Nat.not_le] at hshort
    cases hdec : crypto.gcmDecrypt client.transKey (payload.take localCtlGcmIvLen)
      ((payload.drop localCtlGcmIvLen).take (payload.length - localCtlGcmIvLen - localCtlGcmTagLen))
      (payload.drop (localCtlGcmIvLen + (payload.length - localCtlGcmIvLen - localCtlGcmTagLen))) with
    | none => exact .inl rfl
    | some dec =>
      dsimp only
      obtain ⟨ret, packet, buf, hreplace⟩ : ∃ ret packet buf,
          coapUtilsReplacePayload s.msg.packet s.buf dec = (ret, packet, buf) := ⟨_, _, _, rfl⟩
      rw [hreplace]
      dsimp only
      by_cases hret : ret = .ok
      · subst hret
        obtain ⟨hread, -⟩ := coapUtilsReplacePayload_ok hreplace
        refine .inr ⟨client, packet, buf, _, _, _, _, rfl, rfl, ?_, ?_, ?_, by rw [bufferRaw, hread]; exact hdec⟩
        · rw [← List.drop_drop, List.append_assoc, List.take_append_drop, List.take_append_drop]
        · rw [List.length_take]
          omega
        · rw [List.length_drop]
          omega
      · exact .inl (if_pos hret)

/-! ## The chain behind the look-up -/

theorem recv_plain (hcheck : localSessMsgCheck s.buf = true) (hplain : localCtlSessMsgPlainCheck s.msg = true) :
    (transSessMsgCorNodeProcess [localCtlSessCoapRecvBase64Decode crypto env, localCtlSessCoapRecvDecrypt crypto env,
      sessMsgProcessCoapEndpoint env] s).2 = (sessMsgProcessCoapEndpoint env s).2 := by
  rw [transSessMsgCorNodeProcess_continue (recvBase64Decode_plain hcheck hplain),
    transSessMsgCorNodeProcess_continue (recvDecrypt_plain hcheck hplain), transSessMsgCorNodeProcess_single]

theorem recv_cipher {inv : Invocation} (hs : s.invoked = none) (hplain : localCtlSessMsgPlainCheck s.msg = false)
    (h : (transSessMsgCorNodeProcess [localCtlSessCoapRecvBase64Decode crypto env,
      localCtlSessCoapRecvDecrypt crypto env, sessMsgProcessCoapEndpoint env] s).2.invoked = some inv) :
    ∃ client iv data tag, s.msg.client = some client ∧
      crypto.base64Decode ((bufferRaw s.buf).read s.msg.packet.payload) = some (iv ++ data ++ tag) ∧
      iv.length = localCtlGcmIvLen ∧ tag.length = localCtlGcmTagLen ∧
      crypto.gcmDecrypt client.transKey iv data tag = some inv.payload ∧ inv.msg.client = some client := by
  rcases recvBase64Decode_cipher crypto env s hplain with hbase | ⟨packet, buf, hbase, hdecode, hplain'⟩
  · rw [transSessMsgCorNodeProcess_end hbase nofun, hs] at h
    cases h
  rw [transSessMsgCorNodeProcess_continue hbase] at h
  rcases recvDecrypt_cipher crypto env { s with msg := { s.msg with packet := packet }, buf := buf } hplain' with
    hdec | ⟨client, packet', buf', ctx, iv, data, tag, hdec, hclient, hread, hiv, htag, hgcm⟩
  · rw [transSessMsgCorNodeProcess_end hdec nofun] at h
    dsimp only at h
    rw [hs] at h
    cases h
  rw [transSessMsgCorNodeProcess_continue hdec, transSessMsgCorNodeProcess_single] at h
  obtain ⟨hmsg, hbuf, -⟩ := sessMsgProcessCoapEndpoint_invoked h hs
  refine ⟨client, iv, data, tag, hclient, by rw [hdecode, ← hread], hiv, htag, ?_, ?_⟩
  · rw [hgcm, Invocation.payload, hmsg, hbuf]
  · rw [hmsg]
    exact hclient

/-! ## Every message -/

variable {buf : CoapBuffer}

theorem localSessMsgCheck_of_decode (hsize : buf.len < buf.size)
    (h : coapUdpDecode CoapPacket.init (bufferRaw buf) = .ok pkt) : localSessMsgCheck buf = true := by
  have hlen : buf.len ≠ 0 := by
    intro hzero
    rw [coapUdpDecode, if_pos (show (bufferRaw buf).len = 0 from hzero)] at h
    cases h
  simp only [localSessMsgCheck, decide_eq_true_eq]
  omega

theorem localCtlMsgRecv_of_error {ret : IotcRet}
    (h : coapUdpDecode CoapPacket.init (bufferRaw buf) = .error ret) : (localCtlMsgRecv crypto env ctx buf).1 = none := by
  have hdecode : sessMsgProcessCoapDecode ⟨⟨CoapPacket.init, false, none⟩, buf, ctx, none⟩ =
      (.err, ⟨⟨CoapPacket.init, false, none⟩, buf, ctx, none⟩) := by
    rw [sessMsgProcessCoapDecode, h]
  unfold localCtlMsgRecv
  split_ifs
  · rw [localCtlRecvCor, transSessMsgCorNodeProcess_end hdecode nofun]
  · rfl

theorem localCtlMsgRecv_of_decode
    (hsize : buf.len < buf.size) (h : coapUdpDecode CoapPacket.init (bufferRaw buf) = .ok pkt) :
    (localCtlMsgRecv crypto env ctx buf).1 = (transSessMsgCorNodeProcess (localCtlRecvCor crypto env).tail
      ⟨⟨pkt, false, none⟩, buf, ctx, none⟩).2.invoked := by
  have hdecode : sessMsgProcessCoapDecode ⟨⟨CoapPacket.init, false, none⟩, buf, ctx, none⟩ =
      (.continue, ⟨⟨pkt, false, none⟩, buf, ctx, none⟩) := by
    rw [sessMsgProcessCoapDecode, h]
  rw [localCtlMsgRecv, if_neg (not_not.mpr hsize), localCtlRecvCor, transSessMsgCorNodeProcess_continue hdecode]
  rfl

section Decoded
variable {ctx : LocalControlContext} {buf : CoapBuffer} {pkt : CoapPacket} (hsize : buf.len < buf.size)
  (hdecode : coapUdpDecode CoapPacket.init (bufferRaw buf) = .ok pkt)
include hsize hdecode

theorem recv_open {inv : Invocation} (hwhite : coapUriWhiteListMatch pkt (bufferRaw buf) localCtlWhiteList = true)
    (h : (localCtlMsgRecv crypto env ctx buf).1 = some inv) : inv.handler.isOpen := by
  have hcheck := localSessMsgCheck_of_decode hsize hdecode
  have hpre : localCtlSessCoapRecvPreProcess env ⟨⟨pkt, false, none⟩, buf, ctx, none⟩ =
      (.continue, ⟨⟨pkt, true, none⟩, buf, ctx, none⟩) := by
    rw [localCtlSessCoapRecvPreProcess, if_neg (by rw [hcheck]; decide), if_pos hwhite]
  rw [localCtlMsgRecv_of_decode hsize hdecode, localCtlRecvCor, List.tail_cons,
    transSessMsgCorNodeProcess_continue hpre, recv_plain hcheck rfl] at h
  obtain ⟨-, -, -, -, -, res, hres, huri, hhandler⟩ := sessMsgProcessCoapEndpoint_invoked h rfl
  rw [localCtlCoapRes_open res hres _ hhandler]
  unfold coapUriWhiteListMatch at hwhite
  rw [huri] at hwhite
  exact of_decide_eq_true (Bool.and_eq_true_iff.mp hwhite).2

theorem recv_client (hwhite : coapUriWhiteListMatch pkt (bufferRaw buf) localCtlWhiteList = false) :
    (localCtlMsgRecv crypto env ctx buf).1 = none ∧ ¬ BareRequest env ctx pkt (bufferRaw buf) ∨
      ∃ value client, coapSingleOption pkt (bufferRaw buf) coapOptionTypeSessionId = some value ∧
        ctx.curClientNum ≠ 0 ∧ KnownClient ctx value client ∧ (localCtlMsgRecv crypto env ctx buf).1 =
          (transSessMsgCorNodeProcess [localCtlSessCoapRecvBase64Decode crypto env,
            localCtlSessCoapRecvDecrypt crypto env, sessMsgProcessCoapEndpoint env]
              ⟨⟨pkt, false, some client⟩, buf, ctx, none⟩).2.invoked := by
  have hcheck := localSessMsgCheck_of_decode hsize hdecode
  rw [localCtlMsgRecv_of_decode hsize hdecode, localCtlRecvCor, List.tail_cons]
  rcases recvPreProcess_client env ⟨⟨pkt, false, none⟩, buf, ctx, none⟩ hcheck hwhite with
    ⟨herr, hnone⟩ | ⟨value, client, hvalue, hclient, hcont⟩
  · refine .inl ⟨by rw [transSessMsgCorNodeProcess_end herr nofun], fun hbare => ?_⟩
    obtain ⟨hnum, value, client, hvalue, hknown⟩ := hbare.client
    obtain ⟨client', hget⟩ := get_of_knownClient hnum hknown
    exact hnone value client' hvalue hget
  · obtain ⟨hnum, hknown⟩ := knownClient_of_get hclient
    exact .inr ⟨value, client, hvalue, hnum, hknown, by rw [transSessMsgCorNodeProcess_continue hcont]⟩

theorem recv_bare_iff {value : List UInt8} {client : LocalControlClient}
    (hempty : pkt.payload.data = none ∨ pkt.payload.len = 0) (hnum : ctx.curClientNum ≠ 0)
    (hvalue : coapSingleOption pkt (bufferRaw buf) coapOptionTypeSessionId = some value)
    (hknown : KnownClient ctx value client) :
    (∃ inv, (sessMsgProcessCoapEndpoint env ⟨⟨pkt, false, some client⟩, buf, ctx, none⟩).2.invoked = some inv ∧
      ¬ inv.handler.isOpen) ↔ BareRequest env ctx pkt (bufferRaw buf) := by
  constructor
  · rintro ⟨inv, hinv, hopen⟩
    obtain ⟨-, -, hrequest, hretrans, hlock, res, hres, huri, hhandler⟩ := sessMsgProcessCoapEndpoint_invoked hinv rfl
    rw [localCtlCoapRes_open res hres _ hhandler] at hopen
    exact ⟨hrequest, hempty, ⟨hnum, value, client, hvalue, hknown⟩,
      ⟨res.uri, huri, List.mem_map_of_mem hres, hopen⟩, hlock, hretrans⟩
  · intro hbare
    obtain ⟨uri, huri, hres, hclosed⟩ := hbare.uri
    obtain ⟨inv, hinv⟩ := sessMsgProcessCoapEndpoint_of_uri
      (s := ⟨⟨pkt, false, some client⟩, buf, ctx, none⟩) (localSessMsgCheck_of_decode hsize hdecode) hbare.request
      hbare.fresh hbare.lock huri hres
    refine ⟨inv, hinv, ?_⟩
    obtain ⟨-, -, -, -, -, res, hmem, huri', hhandler⟩ := sessMsgProcessCoapEndpoint_invoked hinv rfl
    rw [localCtlCoapRes_open res hmem _ hhandler, Except.ok.inj (huri'.symm.trans huri)]
    exact hclosed

end Decoded

theorem read_of_empty (hempty : pkt.payload.data = none ∨ pkt.payload.len = 0) : raw.read pkt.payload = [] := by
  unfold CoapRaw.read
  rcases hempty with hdata | hlen
  · rw [hdata]
  · rw [hlen]
    split <;> rfl

theorem not_authenticated_of_empty {handed : List UInt8}
    (hempty : pkt.payload.data = none ∨ pkt.payload.len = 0) : ¬ Authenticated crypto ctx pkt raw handed := by
  rintro ⟨value, client, iv, data, tag, -, -, hbase64, -⟩
  rw [read_of_empty hempty, crypto.base64Decode_nil] at hbase64
  cases hbase64

/-- Whatever is received and whoever the clients are: each handler that is called, other than those for search
and negotiation, is given an authenticated payload, if and only if the message is not a bare request. -/
theorem invoked_authenticated_iff (crypto : SessCrypto) (env : SessEnv) (ctx : LocalControlContext) (buf : CoapBuffer) :
    (∀ inv, (localCtlMsgRecv crypto env ctx buf).1 = some inv → ¬ inv.handler.isOpen →
      ∃ pkt, coapUdpDecode CoapPacket.init (bufferRaw buf) = .ok pkt ∧
        Authenticated crypto ctx pkt (bufferRaw buf) inv.payload) ↔
    ¬ (buf.len < buf.size ∧ ∃ pkt, coapUdpDecode CoapPacket.init (bufferRaw buf) = .ok pkt ∧
      BareRequest env ctx pkt (bufferRaw buf)) := by
  by_cases hsize : buf.len < buf.size
  case neg =>
    refine iff_of_true (fun inv hinv => ?_) fun h => hsize h.1
    rw [localCtlMsgRecv, if_pos hsize] at hinv
    cases hinv
  cases hdecode : coapUdpDecode CoapPacket.init (bufferRaw buf) with
  | error ret =>
    refine iff_of_true (fun inv hinv => ?_) (by simp)
    rw [localCtlMsgRecv_of_error hdecode] at hinv
    cases hinv
  | ok pkt =>
    simp only [hsize, true_and, Except.ok.injEq, exists_eq_left']
    cases hwhite : coapUriWhiteListMatch pkt (bufferRaw buf) localCtlWhiteList with
    | true =>
      refine iff_of_true (fun inv hinv hopen => absurd (recv_open hsize hdecode hwhite hinv) hopen) fun hbare => ?_
      obtain ⟨uri, huri, -, hclosed⟩ := hbare.uri
      rw [coapUriWhiteListMatch, huri, hbare.request] at hwhite
      exact hclosed (of_decide_eq_true hwhite)
    | false =>
      rcases recv_client hsize hdecode hwhite with ⟨hnone, hbare⟩ | ⟨value, client, hvalue, hnum, hknown, hrecv⟩
      · refine iff_of_true (fun inv hinv => ?_) hbare
        rw [hnone] at hinv
        cases hinv
      rw [hrecv]
      by_cases hempty : pkt.payload.data = none ∨ pkt.payload.len = 0
      · have hplain : localCtlSessMsgPlainCheck ⟨pkt, false, some client⟩ = true := by
          simpa [localCtlSessMsgPlainCheck] using hempty
        rw [recv_plain (localSessMsgCheck_of_decode hsize hdecode) hplain,
          ← recv_bare_iff hsize hdecode hempty hnum hvalue hknown, not_exists]
        refine forall_congr' fun inv => ?_
        simp only [not_authenticated_of_empty hempty, imp_false, not_and]
      · have hplain : localCtlSessMsgPlainCheck ⟨pkt, false, some client⟩ = false := by
          simpa [localCtlSessMsgPlainCheck, Option.isSome_iff_ne_none] using hempty
        refine iff_of_true (fun inv hinv _ => ?_) fun hbare => hempty hbare.payload
        obtain ⟨_, iv, data, tag, hclient, hbase64, hiv, htag, hgcm, -⟩ := recv_cipher rfl hplain hinv
        cases hclient
        exact ⟨value, client, iv, data, tag, hvalue, hknown, hbase64, hiv, htag, hgcm⟩

/-! ## A request without a payload -/

/-- A GET of `switch` with the session id that is all zeros. -/
def sampleBareBytes : List UInt8 :=
  [0x40, 0x01, 0x00, 0x01, 0xB6, 115, 119, 105, 116, 99, 104, 0xED, 0x06, 0xE8, 0x03] ++ List.replicate 16 0

def sampleBareBuffer : CoapBuffer := ⟨ofList sampleBareBytes 0, 64, 31⟩

def sampleSessCrypto : SessCrypto where
  base64Size := fun data => some data.length
  base64Decode := fun data => if data = [] then none else some data
  gcmDecrypt := fun _ _ data _ => some data
  base64Decode_nil := rfl
  gcmDecrypt_length := by
    rintro _ _ _ _ _ ⟨⟩
    rfl

def sampleSessEnv : SessEnv := ⟨1, true, true, fun _ => 0, false, true, .ok⟩

theorem created_keys (n : ℕ) (h : 0 < n) :
    ∀ node ∈ (utilsHashMapCreate n h : HashMap LocalControlClient).nodes, node.key = node.value.sessId.val := by
  rw [nodes_create]
  intro node hmem
  cases hmem

def sampleClients : LocalControlContext :=
  (createLocalControlClient (fun len _ _ => List.replicate len 7)
    { mallocClient := true, strDup := true, mallocKey := true, mallocNode := true, createTime := 0, curTime := 0
      recvSeq := 0, sessId := Block.zero 16, authCode := some [1], transKdf := true, authKdf := true }
    ⟨4, 3600, 0, some ⟨utilsHashMapCreate 4 (Nat.succ_pos 3), created_keys 4 (Nat.succ_pos 3)⟩⟩
    ⟨[], [], [112], 1⟩).2

theorem bare_request_is_handled : ∃ inv,
    (localCtlMsgRecv sampleSessCrypto sampleSessEnv sampleClients sampleBareBuffer).1 = some inv ∧
      inv.handler = .svcGet ∧ ∀ pkt, coapUdpDecode CoapPacket.init (bufferRaw sampleBareBuffer) = .ok pkt →
        ¬ Authenticated sampleSessCrypto sampleClients pkt (bufferRaw sampleBareBuffer) inv.payload := by
  have hhandler : ((localCtlMsgRecv sampleSessCrypto sampleSessEnv sampleClients sampleBareBuffer).1.map
      Invocation.handler) = some .svcGet := by decide
  have hempty : ((coapUdpDecode CoapPacket.init (bufferRaw sampleBareBuffer)).toOption.map
      fun pkt => pkt.payload.data) = some none := by decide
  obtain ⟨inv, hinv, hsvc⟩ := Option.map_eq_some_iff.mp hhandler
  refine ⟨inv, hinv, hsvc, fun pkt hdecode => not_authenticated_of_empty (.inl ?_)⟩
  rw [hdecode] at hempty
  exact Option.some.inj hempty

end IotConnect.LocalControl
