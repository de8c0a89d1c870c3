import IotConnect.Coap.Body

/-! # CoAP over UDP (`coap_codec_udp.c`)

Encoder and decoder, and what the decoder makes of what the encoder produced. -/
namespace IotConnect.Coap
open Memory
set_option autoImplicit false

def coapUdpHeaderLen : ℕ := 4
def coapUdpVer : Fin 4 := 1

/-! ## The codec -/

def coapUdpParseHeader (pkt : CoapPacket) (raw : CoapRaw) (pos : ℕ) : Except IotcRet (CoapPacket × ℕ) :=
  if raw.len < pos + coapUdpHeaderLen then .error .coapUdpHeaderShort
  else
    let ver := (raw.data pos).toNat / 64
    if ver ≠ coapUdpVer.val then .error .coapUdpInvalidVer
    else
      .ok ({ pkt with header :=
        { ver := coapUdpVer
          type := Fin.ofNat 4 ((raw.data pos).toNat / 16)
          tkl := Fin.ofNat 16 (raw.data pos).toNat
          code := raw.data (pos + 1)
          msgId := ((raw.data (pos + 2)).toNat * 2 ^ 8 + (raw.data (pos + 3)).toNat).toUInt16 } }, pos + 4)

def coapUdpDecode (pkt : CoapPacket) (raw : CoapRaw) : Except IotcRet CoapPacket :=
  if raw.len = 0 then .error .errParamInvalid
  else
    match coapUdpParseHeader pkt raw 0 with
    | .error ret => .error ret
    | .ok (pkt, pos) => parseBody pkt raw pos

def udpHeaderBytes (h : CoapHeader) : List UInt8 :=
  [(h.ver.val * 64 + h.type.val * 16 + h.tkl.val).toUInt8, h.code, (h.msgId.toNat / 2 ^ 8).toUInt8, h.msgId.toNat.toUInt8]

def coapUdpBuildHeader (build : CoapBuildPacket) (pkt : CoapPacket) (buf : CoapBuffer) : Built :=
  if coapUdpHeaderLen > buf.room then (.coapBufferShort, pkt, buf)
  else if build.header.code = 0 ∧ (build.header.tkl ≠ 0 ∨ build.payload.isSome ∨ build.buildFunc.isSome) then
    (.coapInvalidBuild, pkt, buf)
  else
    let header := { build.header with ver := coapUdpVer }
    (.ok, { pkt with header := header }, buf.push (udpHeaderBytes header))

/-- `CoapUdpEncode` up to the payload. -/
def udpEncodeHead (build : CoapBuildPacket) (pkt : CoapPacket) (buf : CoapBuffer) : Built :=
  ((coapUdpBuildHeader build pkt buf).andThen (coapCommBuildToken build)).andThen (coapCommBuildOption build)

def coapUdpEncode (build : CoapBuildPacket) (pkt : CoapPacket) (buf : CoapBuffer) : Built :=
  if buf.size = 0 then (.errParamInvalid, pkt, buf)
  else (udpEncodeHead build pkt buf).andThen (coapCommBuildPayload build)

/-! ## What is sent -/

variable {build : CoapBuildPacket} {pkt : CoapPacket} {buf : CoapBuffer}

theorem udpBuildHeader_ok (h : (coapUdpBuildHeader build pkt buf).1 = .ok) :
    (coapUdpBuildHeader build pkt buf).2 = ({ pkt with header := { build.header with ver := coapUdpVer } },
      buf.push (udpHeaderBytes { build.header with ver := coapUdpVer })) := by
  unfold coapUdpBuildHeader at h ⊢
  split at h
  · cases h
  split at h
  · cases h
  rename_i hroom hempty
  rw [if_neg hroom, if_neg hempty]

theorem udpEncodeHead_ok
    (h : (udpEncodeHead build pkt buf).1 = .ok) : build.header.tkl.val ≤ 8 ∧ OptionsOk build.options ∧
      ∃ opNum options, (udpEncodeHead build pkt buf).2 =
        ({ pkt with
            header := { build.header with ver := coapUdpVer }
            token := store pkt.token 0 (load build.token 0 build.header.tkl.val)
            opNum := opNum
            options := options },
          buf.push (udpHeaderBytes { build.header with ver := coapUdpVer } ++ bodyBytes build [])) := by
  unfold udpEncodeHead at h ⊢
  obtain ⟨hht, hopt⟩ := Built.andThen_ok_iff.mp h
  obtain ⟨hh, ht⟩ := Built.andThen_ok_iff.mp hht
  rw [Built.andThen_of_ok hht]
  rw [Built.andThen_of_ok hh] at hopt ⊢
  have hheader := udpBuildHeader_ok hh
  obtain ⟨h8, -, htok⟩ := buildToken_ok ht
  obtain ⟨opNum, options, heq⟩ := buildOption_ok hopt
  refine ⟨h8, ((buildOption_ok_iff _ _ _).mp hopt).1, opNum, options, ?_⟩
  rw [heq, htok, hheader]
  simp only [CoapBuffer.push_push, bodyBytes, List.append_assoc, List.append_nil]

def udpPayload (build : CoapBuildPacket) (pkt : CoapPacket) (buf : CoapBuffer) : List UInt8 :=
  sentPayload build (udpEncodeHead build pkt buf).2.2

theorem coapUdpEncode_ok
    (h : (coapUdpEncode build pkt buf).1 = .ok) : build.header.tkl.val ≤ 8 ∧ OptionsOk build.options ∧
      (coapUdpEncode build pkt buf).2.2 = buf.push (udpHeaderBytes { build.header with ver := coapUdpVer } ++
        bodyBytes build (udpPayload build pkt buf)) := by
  unfold coapUdpEncode at h ⊢
  split at h
  · cases h
  rename_i hsize
  rw [if_neg hsize]
  obtain ⟨hh, hp⟩ := Built.andThen_ok_iff.mp h
  obtain ⟨h8, hopts, opNum, options, hhead⟩ := udpEncodeHead_ok hh
  obtain ⟨-, hbuf', -⟩ := buildPayload_ok hp
  refine ⟨h8, hopts, ?_⟩
  rw [Built.andThen_of_ok hh, hbuf', ← udpPayload, hhead, CoapBuffer.push_push]
  simp only [bodyBytes, List.append_assoc, List.append_nil]

theorem coapUdpEncode_packet (h : (coapUdpEncode build pkt buf).1 = .ok) :
    (coapUdpEncode build pkt buf).2.1.header = { build.header with ver := coapUdpVer } ∧
      (coapUdpEncode build pkt buf).2.1.token =
        store pkt.token 0 (load build.token 0 build.header.tkl.val) := by
  unfold coapUdpEncode at h ⊢
  split at h
  · cases h
  rename_i hsize
  rw [if_neg hsize]
  obtain ⟨hh, hp⟩ := Built.andThen_ok_iff.mp h
  obtain ⟨-, -, opNum, options, hhead⟩ := udpEncodeHead_ok hh
  rw [Built.andThen_of_ok hh]
  obtain ⟨-, -, ⟨-, -, hpkt⟩ | ⟨-, hpkt⟩⟩ := buildPayload_ok hp
  · rw [hpkt, hhead]
    exact ⟨rfl, rfl⟩
  · rw [hpkt, hhead]
    exact ⟨rfl, rfl⟩

/-! ## Decoding what was sent -/

theorem coapUdpDecode_token {pkt' : CoapPacket} {raw : CoapRaw} (h : coapUdpDecode pkt raw = .ok pkt') :
    pkt'.header.tkl.val ≤ 8 ∧ ∀ i, pkt'.header.tkl.val ≤ i → pkt'.token i = pkt.token i := by
  unfold coapUdpDecode at h
  split at h
  · cases h
  cases hheader : coapUdpParseHeader pkt raw 0 with
  | error ret =>
    rw [hheader] at h
    cases h
  | ok r =>
    rw [hheader] at h
    have hr : r.1.token = pkt.token := by
      unfold coapUdpParseHeader at hheader
      dsimp only at hheader
      split_ifs at hheader
      cases hheader
      rfl
    obtain ⟨h8, htoken⟩ := parseBody_token h
    rw [(parseBody_frame h).1, htoken, hr]
    exact ⟨h8, fun i hi => store_apply_ge _ _ _ _ (by rw [load_length]; omega)⟩

theorem udpParseHeader_udpHeaderBytes (h : CoapHeader) (hver : h.ver = coapUdpVer) (pkt : CoapPacket) (raw : CoapRaw)
    (hmem : Holds raw.data 0 (udpHeaderBytes h)) (hlen : 4 ≤ raw.len) :
    coapUdpParseHeader pkt raw 0 = .ok ({ pkt with header := h }, 4) := by
  obtain ⟨ver, type, tkl, code, msgId⟩ := h
  subst hver
  have h0 : raw.data 0 = (coapUdpVer.val * 64 + type.val * 16 + tkl.val).toUInt8 := hmem.getElem 0 (by simp [udpHeaderBytes])
  have h1 : raw.data (0 + 1) = code := hmem.getElem 1 (by simp [udpHeaderBytes])
  have h2 : raw.data (0 + 2) = (msgId.toNat / 2 ^ 8).toUInt8 := hmem.getElem 2 (by simp [udpHeaderBytes])
  have h3 : raw.data (0 + 3) = msgId.toNat.toUInt8 := hmem.getElem 3 (by simp [udpHeaderBytes])
  have htype := type.isLt
  have htkl := tkl.isLt
  have hid := msgId.toNat_lt
  have hbyte : (raw.data 0).toNat = 64 + type.val * 16 + tkl.val := by
    rw [h0, toNat_toUInt8]
    have : coapUdpVer.val = 1 := rfl
    omega
  unfold coapUdpParseHeader coapUdpHeaderLen
  rw [if_neg (by omega), hbyte, h1, h2, h3, toNat_toUInt8, toNat_toUInt8]
  have hv : (64 + type.val * 16 + tkl.val) / 64 = coapUdpVer.val := by
    have : coapUdpVer.val = 1 := rfl
    omega
  have ht : Fin.ofNat 4 ((64 + type.val * 16 + tkl.val) / 16) = type := by
    refine Fin.ext ?_
    show (64 + type.val * 16 + tkl.val) / 16 % 4 = type.val
    omega
  have hk : Fin.ofNat 16 (64 + type.val * 16 + tkl.val) = tkl := by
    refine Fin.ext ?_
    show (64 + type.val * 16 + tkl.val) % 16 = tkl.val
    omega
  have hm : (msgId.toNat / 2 ^ 8 % 2 ^ 8 * 2 ^ 8 + msgId.toNat % 2 ^ 8).toUInt16 = msgId := by
    rw [← UInt16.toNat_inj, Nat.toUInt16_eq, UInt16.toNat_ofNat']
    omega
  rw [if_neg (not_not.mpr hv), ht, hk, hm]

/-- **A message that was encoded decodes to the packet it was built from exactly when no option of it
has a delta of 269 or a value of 269 or 65805 bytes.** The encoder sets the version itself. -/
theorem coapUdp_roundTrip_iff (build : CoapBuildPacket) (pkt pkt0 : CoapPacket) (buf : CoapBuffer)
    (hok : (coapUdpEncode build pkt buf).1 = .ok) :
    (∃ pkt', coapUdpDecode pkt0 ((coapUdpEncode build pkt buf).2.2.since buf.len) = .ok pkt' ∧
      pkt'.header = { build.header with ver := coapUdpVer } ∧
      SameBody build (udpPayload build pkt buf) ((coapUdpEncode build pkt buf).2.2.since buf.len) pkt') ↔
      Plain 0 build.options := by
  obtain ⟨h8, hopts, hbuf⟩ := coapUdpEncode_ok hok
  rw [hbuf]
  have hmem := CoapBuffer.since_push_holds buf
    (udpHeaderBytes { build.header with ver := coapUdpVer } ++ bodyBytes build (udpPayload build pkt buf))
  have hlen := CoapBuffer.since_push_len buf
    (udpHeaderBytes { build.header with ver := coapUdpVer } ++ bodyBytes build (udpPayload build pkt buf))
  rw [holds_append] at hmem
  have hhlen : (udpHeaderBytes { build.header with ver := coapUdpVer }).length = 4 := rfl
  rw [List.length_append, hhlen] at hlen
  rw [hhlen] at hmem
  unfold coapUdpDecode
  rw [if_neg (by omega), udpParseHeader_udpHeaderBytes _ rfl pkt0 _ hmem.1 (by omega)]
  rw [← parseBody_recovers_iff (udpPayload build pkt buf)
    { pkt0 with header := { build.header with ver := coapUdpVer } } rfl h8 hopts hmem.2 (by omega)]
  constructor
  · rintro ⟨pkt', hdec, -, hsame⟩
    exact ⟨pkt', hdec, hsame⟩
  · rintro ⟨pkt', hdec, hsame⟩
    exact ⟨pkt', hdec, (parseBody_frame hdec).1, hsame⟩

theorem coapUdp_roundTrip_268 :
    ∃ pkt', coapUdpDecode CoapPacket.init
        ((coapUdpEncode (sampleRequest 268 [8, 9]) CoapPacket.init (emptyBuffer 64)).2.2.since 0) = .ok pkt' ∧
      pkt'.header = { (sampleRequest 268 [8, 9]).header with ver := coapUdpVer } ∧
      SameBody (sampleRequest 268 [8, 9]) (udpPayload (sampleRequest 268 [8, 9]) CoapPacket.init (emptyBuffer 64))
        ((coapUdpEncode (sampleRequest 268 [8, 9]) CoapPacket.init (emptyBuffer 64)).2.2.since 0) pkt' :=
  (coapUdp_roundTrip_iff (sampleRequest 268 [8, 9]) CoapPacket.init CoapPacket.init (emptyBuffer 64) (by decide)).mpr
    ⟨by decide, trivial⟩

/-- Option 269 is written with one extension byte, `256` cut to `0`, and read as option 13. -/
theorem coapUdp_option_269_becomes_13 :
    (coapUdpEncode (sampleRequest 269 [8, 9]) CoapPacket.init (emptyBuffer 64)).1 = .ok ∧
      (coapUdpDecode CoapPacket.init
        ((coapUdpEncode (sampleRequest 269 [8, 9]) CoapPacket.init (emptyBuffer 64)).2.2.since 0)).toOption.map
          (fun pkt => (pkt.opNum, (pkt.options 0).option)) = some (1, 13) := by
  decide

end IotConnect.Coap
