import IotConnect.Coap.TcpFrame
import IotConnect.Foundations.Bytes

/-! # The length field of CoAP over TCP

The encoder takes the length field from a dry run of the option and payload builders; the decoder
reads it with `high << 8 | low + constant`, an or where a sum is meant. So a frame is read back with
its length exactly when the low byte plus the constant shares no bit with the high bytes, and when the
length is not one of the two that are cut (`LengthExact`). -/
namespace IotConnect.Coap
open Memory
set_option autoImplicit false

/-- What the decoder reads where the encoder wrote a length of `e`. -/
def readExlen (e : ℕ) : ℕ :=
  if e < 13 then e
  else if e ≤ 269 then (e - 13) % 2 ^ 8 + 13 + 1
  else if e ≤ 65805 then ((e - 269) / 2 ^ 8 % 2 ^ 8) <<< 8 ||| ((e - 269) % 2 ^ 8 + 269 + 2)
  else ((e - 65805) / 2 ^ 24 % 2 ^ 8) <<< 24 ||| ((e - 65805) / 2 ^ 16 % 2 ^ 8) <<< 16 |||
    ((e - 65805) / 2 ^ 8 % 2 ^ 8) <<< 8 ||| ((e - 65805) % 2 ^ 8 + 65805 + 4)

/-- The lengths that are read back: no cut extension, no carry out of the low byte. -/
def LengthExact (e : ℕ) : Prop :=
  e ≠ 269 ∧ e ≠ 65805 ∧
    (269 < e → e ≤ 65805 → ((e - 269) / 2 ^ 8 * 2 ^ 8) &&& ((e - 269) % 2 ^ 8 + 271) = 0) ∧
    (65805 < e → ((e - 65805) / 2 ^ 8 * 2 ^ 8) &&& ((e - 65805) % 2 ^ 8 + 65809) = 0)

theorem or_high_bytes (x : ℕ) (hx : x < 2 ^ 32) :
    (x / 2 ^ 24 % 2 ^ 8) <<< 24 ||| (x / 2 ^ 16 % 2 ^ 8) <<< 16 ||| (x / 2 ^ 8 % 2 ^ 8) <<< 8 =
      x / 2 ^ 8 * 2 ^ 8 := by
  have h1 := Nat.two_pow_add_eq_or_of_lt (i := 24) (b := x / 2 ^ 16 % 2 ^ 8 * 2 ^ 16) (by omega) (x / 2 ^ 24 % 2 ^ 8)
  have h2 := Nat.two_pow_add_eq_or_of_lt (i := 16) (b := x / 2 ^ 8 % 2 ^ 8 * 2 ^ 8) (by omega)
    (x / 2 ^ 24 % 2 ^ 8 * 2 ^ 8 + x / 2 ^ 16 % 2 ^ 8)
  have e1 : x / 2 ^ 24 % 2 ^ 8 * 2 ^ 24 = 2 ^ 24 * (x / 2 ^ 24 % 2 ^ 8) := Nat.mul_comm _ _
  have e2 : 2 ^ 24 * (x / 2 ^ 24 % 2 ^ 8) + x / 2 ^ 16 % 2 ^ 8 * 2 ^ 16 =
      2 ^ 16 * (x / 2 ^ 24 % 2 ^ 8 * 2 ^ 8 + x / 2 ^ 16 % 2 ^ 8) := by omega
  rw [Nat.shiftLeft_eq, Nat.shiftLeft_eq, Nat.shiftLeft_eq, e1, ← h1, e2, ← h2]
  omega

theorem readExlen_eq_iff (e : ℕ) (he : e < 2 ^ 32) : readExlen e = (extBytes e).length + e ↔ LengthExact e := by
  unfold readExlen extBytes LengthExact
  by_cases h13 : e < 13
  · rw [if_pos h13, if_pos h13, List.length_nil]
    omega
  rw [if_neg h13, if_neg h13]
  by_cases h269 : e ≤ 269
  · rw [if_pos h269, if_pos h269, List.length_singleton]
    omega
  rw [if_neg h269, if_neg h269]
  by_cases h65805 : e ≤ 65805
  · have hor := Bytes.or_eq_add_iff ((e - 269) / 2 ^ 8 * 2 ^ 8) ((e - 269) % 2 ^ 8 + 271)
    rw [if_pos h65805, if_pos h65805, Nat.shiftLeft_eq]
    simp only [List.length_cons, List.length_nil]
    by_cases hend : e = 65805
    · subst hend
      simp
    · have hhi : (e - 269) / 2 ^ 8 % 2 ^ 8 = (e - 269) / 2 ^ 8 := by omega
      rw [hhi, Nat.add_assoc _ 269 2]
      generalize (e - 269) / 2 ^ 8 * 2 ^ 8 ||| ((e - 269) % 2 ^ 8 + (269 + 2)) = o at hor ⊢
      constructor
      · intro h
        exact ⟨by omega, hend, fun _ _ => hor.mp (by omega), fun h => by omega⟩
      · rintro ⟨-, -, hand, -⟩
        have := hor.mpr (hand (by omega) h65805)
        omega
  · have hor := Bytes.or_eq_add_iff ((e - 65805) / 2 ^ 8 * 2 ^ 8) ((e - 65805) % 2 ^ 8 + 65809)
    rw [if_neg h65805, if_neg h65805, or_high_bytes _ (by omega), Nat.add_assoc _ 65805 4]
    simp only [List.length_cons, List.length_nil]
    generalize (e - 65805) / 2 ^ 8 * 2 ^ 8 ||| ((e - 65805) % 2 ^ 8 + (65805 + 4)) = o at hor ⊢
    constructor
    · intro h
      exact ⟨by omega, by omega, fun _ h => absurd h h65805, fun _ => hor.mp (by omega)⟩
    · rintro ⟨-, -, -, hand⟩
      have := hor.mpr (hand (by omega))
      omega

theorem readExlen_lt (e : ℕ) (he : 269 < e) : readExlen e < 2 ^ 32 := by
  unfold readExlen
  rw [if_neg (by omega), if_neg (by omega), Nat.shiftLeft_eq, Nat.shiftLeft_eq, Nat.shiftLeft_eq, Nat.shiftLeft_eq]
  split
  · exact Nat.or_lt_two_pow (by omega) (by omega)
  · exact Nat.or_lt_two_pow (Nat.or_lt_two_pow (Nat.or_lt_two_pow (by omega) (by omega)) (by omega)) (by omega)

theorem parseExlen_extBytes (e : ℕ) (raw : CoapRaw) (pos : ℕ) (hext : Holds raw.data pos (extBytes e)) :
    parseExlen (coapCommGetExtensionBase e).1 raw pos = (readExlen e, pos + (extBytes e).length) := by
  unfold extBytes at hext ⊢
  unfold parseExlen readExlen coapCommGetExtensionBase coapDeltaUint8AddNum coapDeltaUint16AddNum
    coapDeltaUint32AddNum coapExtendDeltaValueUint coapExtendDeltaValueUint8 coapExtendDeltaValueUint16
    coapExtendDeltaValueUint32
  by_cases h13 : e < 13
  · simp only [if_pos h13, List.length_nil, Nat.add_zero]
    rw [if_pos (by omega)]
  simp only [if_neg h13] at hext ⊢
  by_cases h269 : e ≤ 269
  · simp only [if_pos h269] at hext ⊢
    have b0 : raw.data pos = _ := hext.getElem 0 (by simp)
    simp [b0]
  simp only [if_neg h269] at hext ⊢
  by_cases h65805 : e ≤ 65805
  · simp only [if_pos h65805] at hext ⊢
    have b0 : raw.data pos = _ := hext.getElem 0 (by simp)
    have b1 : raw.data (pos + 1) = _ := hext.getElem 1 (by simp)
    simp [b0, b1]
  · simp only [if_neg h65805] at hext ⊢
    have b0 : raw.data pos = _ := hext.getElem 0 (by simp)
    have b1 : raw.data (pos + 1) = _ := hext.getElem 1 (by simp)
    have b2 : raw.data (pos + 2) = _ := hext.getElem 2 (by simp)
    have b3 : raw.data (pos + 3) = _ := hext.getElem 3 (by simp)
    simp [b0, b1, b2, b3]

/-! ## The dry run -/

def bodyLen (build : CoapBuildPacket) (payload : List UInt8) : ℕ :=
  (optionsBytes 0 build.options).length + 1 + payload.length

section DryRun
variable {ctx : M2mCloudContext} {build : CoapBuildPacket} {pkt : CoapPacket} {buf buf' : CoapBuffer}

theorem tcpHeadBytes_length (build : CoapBuildPacket) (e : ℕ) : (tcpHeadBytes build e).length =
    2 + (extBytes e).length + build.header.tkl.val + ((optionsBytes 0 build.options).length + 1) := by
  rw [tcpHeadBytes, List.length_append, tcpHeaderBytes_length, bodyBytes_length, List.length_nil]
  omega

theorem tcpV1EncodePlain_payload (h : (tcpV1EncodePlain ctx build pkt buf).1 = .ok) :
    (coapCommBuildPayload build
      (tcpEncodeHead build (tcpDryRun ctx build pkt buf).1 (tcpDryRun ctx build pkt buf).2).2.1
      (tcpEncodeHead build (tcpDryRun ctx build pkt buf).1 (tcpDryRun ctx build pkt buf).2).2.2).1 = .ok := by
  unfold tcpV1EncodePlain at h
  split at h
  · cases h
  · exact (Built.andThen_ok_iff.mp h).2

variable (buf buf') in
/-- Where a frame was built, the builders of the dry run succeed in every empty buffer of that size, and
with the payload of the frame: the second run of the payload builder has less room than the first. -/
theorem dryRun_builds (hempty : buf.len = 0) (hsize : buf.size = buf'.size) (hcb : StableCallback build)
    (h : (tcpV1EncodePlain ctx build pkt buf').1 = .ok) :
    (coapCommBuildOption build pkt buf).2.2 = buf.push (optionsBytes 0 build.options ++ [0xFF]) ∧
      (coapCommBuildPayload build (coapCommBuildOption build pkt buf).2.1
        (coapCommBuildOption build pkt buf).2.2).1 = .ok ∧
      sentPayload build (coapCommBuildOption build pkt buf).2.2 = tcpPayload ctx build pkt buf' := by
  obtain ⟨-, hopts, hhead, hfit, -⟩ := tcpV1EncodePlain_ok h
  obtain ⟨-, -, -, hbuf, -⟩ := tcpEncodeHead_ok hhead
  have hlen := tcpHeadBytes_length build (tcpExlen ctx build pkt buf')
  have hopt : (coapCommBuildOption build pkt buf).1 = .ok :=
    (buildOption_ok_iff build pkt buf).mpr ⟨hopts, by omega⟩
  obtain ⟨opNum, options, heq⟩ := buildOption_ok hopt
  rw [heq]
  refine ⟨rfl, buildPayload_earlier _ _ hcb ?_ ?_ (tcpV1EncodePlain_payload h)⟩
  · rw [hbuf, CoapBuffer.push_size, CoapBuffer.push_size, hsize]
    exact (tcpDryRun_size ctx build pkt buf').symm
  · rw [hbuf, CoapBuffer.push_len, CoapBuffer.push_len, ← tcpExlen, hlen]
    simp only [List.length_append, List.length_singleton]
    omega

variable (buf buf') in
theorem tcpDryRun_buffer (hempty : buf.len = 0) (hsize : buf.size = buf'.size) (hcb : StableCallback build)
    (h : (tcpV1EncodePlain ctx build pkt buf').1 = .ok) :
    (tcpDryRun ctx build pkt buf).2 = { buf with
      buffer := store buf.buffer 0 (optionsBytes 0 build.options ++ [0xFF] ++ tcpPayload ctx build pkt buf') } := by
  obtain ⟨hopt, hok, hsent⟩ := dryRun_builds buf buf' hempty hsize hcb h
  obtain ⟨-, hend, -⟩ := buildPayload_ok hok
  unfold tcpDryRun
  dsimp only
  rw [hend, hsent, hopt, CoapBuffer.push_push, CoapBuffer.push, hempty]

theorem tcpExlen_eq (hpsk : ¬ ctx.pskActive) (hempty : buf.len = 0) (hcb : StableCallback build)
    (h : (tcpV1EncodePlain ctx build pkt buf).1 = .ok) :
    tcpExlen ctx build pkt buf = bodyLen build (tcpPayload ctx build pkt buf) := by
  obtain ⟨hopt, hok, hsent⟩ := dryRun_builds buf buf hempty rfl hcb h
  obtain ⟨-, hend, -⟩ := buildPayload_ok hok
  have hdry : tcpExlen ctx build pkt buf = (coapCommBuildPayload build (coapCommBuildOption build pkt buf).2.1
      (coapCommBuildOption build pkt buf).2.2).2.2.len := by
    simp [tcpExlen, tcpDryRun, hpsk]
  rw [hdry, hend, hsent, hopt]
  simp only [CoapBuffer.push_len, List.length_append, List.length_singleton, bodyLen]
  omega

end DryRun

/-! ## The header -/

/-- The packet with what the decoder reads where a header with a length of `e` was written. -/
def CoapPacket.readHeader (pkt : CoapPacket) (h : CoapHeader) (len : Fin 16) (e : ℕ) : CoapPacket :=
  { pkt with
    header := { pkt.header with tkl := h.tkl, code := h.code }
    tcpheader := ⟨len, (readExlen e + h.tkl.val + 2) % 2 ^ 32⟩ }

theorem tcpParseHeader_tcpHeaderBytes (h : CoapHeader) (e : ℕ) (pkt : CoapPacket) (raw : CoapRaw)
    (hmem : Holds raw.data 0 (tcpHeaderBytes h e)) (hlen : 4 ≤ raw.len) :
    ∃ len, coapTcpV1ParseHeader pkt raw 0 = .ok (pkt.readHeader h len e, (tcpHeaderBytes h e).length) := by
  have htkl := h.tkl.isLt
  have hbase : (coapCommGetExtensionBase e).1 ≤ 15 := by
    by_cases he : e ≤ 65805
    · exact Nat.le_trans (extensionBase_le e he) (by decide)
    · rw [(extensionBase_reserved_iff e).mpr (by omega)]
      decide
  have hlength := tcpHeaderBytes_length h e
  unfold tcpHeaderBytes at hmem
  rw [holds_append, holds_append] at hmem
  obtain ⟨⟨hfirst, hext⟩, hcode⟩ := hmem
  simp only [List.length_append, List.length_singleton, Nat.zero_add] at hext hcode
  have h0 : raw.data 0 = ((coapCommGetExtensionBase e).1 * 16 + h.tkl.val).toUInt8 :=
    hfirst.getElem 0 Nat.zero_lt_one
  have hc : raw.data (1 + (extBytes e).length) = h.code := hcode.getElem 0 Nat.zero_lt_one
  have hbyte : (raw.data 0).toNat = (coapCommGetExtensionBase e).1 * 16 + h.tkl.val := by
    rw [h0, toNat_toUInt8]
    omega
  have hk : Fin.ofNat 16 (raw.data 0).toNat = h.tkl := by
    refine Fin.ext ?_
    show (raw.data 0).toNat % 16 = h.tkl.val
    omega
  have hl : (Fin.ofNat 16 ((raw.data 0).toNat / 16)).val = (coapCommGetExtensionBase e).1 := by
    show (raw.data 0).toNat / 16 % 16 = _
    omega
  have hexlen : parseExlen (coapCommGetExtensionBase e).1 raw 1 = (readExlen e, 1 + (extBytes e).length) :=
    parseExlen_extBytes e raw 1 hext
  refine ⟨Fin.ofNat 16 ((raw.data 0).toNat / 16), ?_⟩
  unfold coapTcpV1ParseHeader CoapPacket.readHeader coapTcpV1CoapHeaderLen coapTcpV1RawHeaderLen
  rw [if_neg (by omega)]
  simp only [hk, hl, Nat.zero_add, hexlen, hc]
  rw [hlength]
  congr 2
  omega

theorem tcpV1Parse_head (build : CoapBuildPacket) (e : ℕ) (tail : List UInt8) (pkt : CoapPacket) (raw : CoapRaw)
    (hmem : Holds raw.data 0 (tcpHeadBytes build e ++ tail)) (hlen : raw.len = (tcpHeadBytes build e ++ tail).length)
    (h4 : 4 ≤ raw.len) :
    Holds raw.data (tcpHeaderBytes build.header e).length (bodyBytes build tail) ∧
      raw.len = (tcpHeaderBytes build.header e).length + (bodyBytes build tail).length ∧
      ∃ len, tcpV1Parse pkt raw =
        parseBody (pkt.readHeader build.header len e) raw (tcpHeaderBytes build.header e).length := by
  have hbytes : tcpHeadBytes build e ++ tail = tcpHeaderBytes build.header e ++ bodyBytes build tail := by
    simp only [tcpHeadBytes, bodyBytes, List.append_assoc, List.append_nil]
  rw [hbytes, holds_append, Nat.zero_add] at hmem
  rw [hbytes, List.length_append] at hlen
  obtain ⟨len, hhead⟩ := tcpParseHeader_tcpHeaderBytes build.header e pkt raw hmem.1 h4
  refine ⟨hmem.2, hlen, len, ?_⟩
  unfold tcpV1Parse
  rw [if_neg (by omega), hhead]

/-! ## The round trip -/

theorem decoded_exlen_iff (e tkl : ℕ) (htkl : tkl < 16) (hlen : 2 + (extBytes e).length + tkl + e < 2 ^ 32) :
    (readExlen e + tkl + 2) % 2 ^ 32 = 2 + (extBytes e).length + tkl + e ↔ LengthExact e := by
  rw [← readExlen_eq_iff e (by omega)]
  constructor
  · intro h
    by_cases he : e < 270
    · -- no wrap: the value read is small
      have hr : readExlen e ≤ 269 := by
        unfold readExlen
        split
        · omega
        rw [if_pos (by omega)]
        omega
      omega
    · have hr : readExlen e < 2 ^ 32 := readExlen_lt e (by omega)
      omega
  · intro h
    rw [h, Nat.mod_eq_of_lt (by omega)]
    omega

section
variable {ctx : M2mCloudContext} {build : CoapBuildPacket} {pkt : CoapPacket} {buf : CoapBuffer}

theorem coapTcpV1Encode_inactive (hpsk : ¬ ctx.pskActive) (hok : (coapTcpV1Encode ctx build pkt buf).1 = .ok) :
    (tcpV1EncodePlain ctx build pkt buf).1 = .ok ∧
      (coapTcpV1Encode ctx build pkt buf).2.2 = (tcpV1EncodePlain ctx build pkt buf).2.2 := by
  unfold coapTcpV1Encode at hok ⊢
  have hplain := (Built.andThen_ok_iff.mp hok).1
  refine ⟨hplain, ?_⟩
  rw [Built.andThen_of_ok hplain]
  simp [coapTcpEncrypt, hpsk]

theorem coapTcpV1Decode_inactive_iff (hpsk : ¬ ctx.pskActive) (raw raw' : CoapRaw) (pkt' : CoapPacket) :
    coapTcpV1Decode ctx pkt raw = .ok (pkt', raw') ↔ tcpV1Parse pkt raw = .ok pkt' ∧ raw = raw' := by
  unfold coapTcpV1Decode
  cases tcpV1Parse pkt raw with
  | error ret => simp
  | ok p => simp [coapTcpDecrypt, hpsk]

end

/-- **Without encryption a frame decodes to the packet it was built from, with its length, exactly
when its options are plain, its length is exact and it has at least the four bytes the header parser
asks for.** A length fits the `uint32_t` it is kept in. -/
theorem coapTcpV1_roundTrip_iff (ctx : M2mCloudContext) (build : CoapBuildPacket) (pkt pkt0 : CoapPacket)
    (buf : CoapBuffer) (hpsk : ctx.pskInfo.pskFinish = false) (hempty : buf.len = 0) (hcb : StableCallback build)
    (hok : (coapTcpV1Encode ctx build pkt buf).1 = .ok) (hlen : (coapTcpV1Encode ctx build pkt buf).2.2.len < 2 ^ 32) :
    (∃ pkt' raw', coapTcpV1Decode ctx pkt0 ((coapTcpV1Encode ctx build pkt buf).2.2.since 0) = .ok (pkt', raw') ∧
      pkt'.header.code = build.header.code ∧ pkt'.header.tkl = build.header.tkl ∧
      SameBody build (tcpPayload ctx build pkt buf) raw' pkt' ∧
      pkt'.tcpheader.exlen = (coapTcpV1Encode ctx build pkt buf).2.2.len) ↔
    Plain 0 build.options ∧ LengthExact (bodyLen build (tcpPayload ctx build pkt buf)) ∧
      ¬ (build.header.tkl.val = 0 ∧ bodyLen build (tcpPayload ctx build pkt buf) = 1) := by
  have hinactive : ¬ ctx.pskActive := fun h => by simp [h.1] at hpsk
  obtain ⟨hplain, hout⟩ := coapTcpV1Encode_inactive hinactive hok
  obtain ⟨h8, hopts, -, -, hbuf, -⟩ := tcpV1EncodePlain_ok hplain
  have hexlen := tcpExlen_eq hinactive hempty hcb hplain
  rw [hexlen] at hbuf
  rw [hout, hbuf] at hlen ⊢
  generalize tcpPayload ctx build pkt buf = payload at hlen ⊢
  -- the frame
  have hmem := CoapBuffer.since_push_holds { (tcpDryRun ctx build pkt buf).2 with len := 0 }
    (tcpHeadBytes build (bodyLen build payload) ++ payload)
  have hrawlen := CoapBuffer.since_push_len { (tcpDryRun ctx build pkt buf).2 with len := 0 }
    (tcpHeadBytes build (bodyLen build payload) ++ payload)
  have hframe : (tcpHeadBytes build (bodyLen build payload) ++ payload).length =
      2 + (extBytes (bodyLen build payload)).length + build.header.tkl.val + bodyLen build payload := by
    rw [List.length_append, tcpHeadBytes_length]
    unfold bodyLen
    omega
  rw [CoapBuffer.push_len] at hlen ⊢
  dsimp only at hmem hrawlen hlen ⊢
  generalize hraw : CoapBuffer.since _ 0 = raw at hmem hrawlen ⊢
  simp only [coapTcpV1Decode_inactive_iff hinactive]
  have hone : bodyLen build payload = 1 → (extBytes (bodyLen build payload)).length = 0 := fun h => by rw [h]; rfl
  have hpos : 1 ≤ bodyLen build payload := by
    unfold bodyLen
    omega
  by_cases hshort : build.header.tkl.val = 0 ∧ bodyLen build payload = 1
  · have := hone hshort.2
    have herr : tcpV1Parse pkt0 raw = .error .coapTcpV1HeaderShort := by
      unfold tcpV1Parse coapTcpV1ParseHeader coapTcpV1CoapHeaderLen coapTcpV1RawHeaderLen
      rw [if_neg (by omega), if_pos (by omega)]
    rw [herr]
    constructor
    · rintro ⟨pkt', raw', ⟨hdec, -⟩, -⟩
      cases hdec
    · exact fun h => absurd hshort h.2.2
  · obtain ⟨hbody, hrest, len, hparse⟩ := tcpV1Parse_head build (bodyLen build payload) payload pkt0 raw hmem hrawlen
      (by omega)
    have hbodyiff := parseBody_recovers_iff payload (pkt0.readHeader build.header len (bodyLen build payload))
      rfl h8 hopts hbody hrest
    have hexiff := decoded_exlen_iff (bodyLen build payload) build.header.tkl.val build.header.tkl.isLt (by omega)
    rw [hparse, ← hbodyiff, ← hexiff]
    constructor
    · rintro ⟨pkt', raw', ⟨hp, rfl⟩, -, -, hsame, hex⟩
      refine ⟨⟨pkt', hp, hsame⟩, ?_, hshort⟩
      rw [(parseBody_frame hp).2, CoapPacket.readHeader] at hex
      dsimp only at hex
      omega
    · rintro ⟨⟨pkt', hp, hsame⟩, hex, -⟩
      refine ⟨pkt', raw, ⟨hp, rfl⟩, ?_, ?_, hsame, ?_⟩
      · rw [(parseBody_frame hp).1]
        rfl
      · rw [(parseBody_frame hp).1]
        rfl
      · rw [(parseBody_frame hp).2, CoapPacket.readHeader]
        dsimp only
        omega

def openContext : M2mCloudContext := ⟨⟨false, false, [], []⟩, PskCrypto.padOnly true⟩

theorem coapTcpV1_roundTrip_short :
    ∃ pkt' raw', coapTcpV1Decode openContext CoapPacket.init ((coapTcpV1Encode openContext
        (sampleRequest 11 [8, 9]) CoapPacket.init (emptyBuffer 64)).2.2.since 0) = .ok (pkt', raw') ∧
      pkt'.header.code = (sampleRequest 11 [8, 9]).header.code ∧
      pkt'.header.tkl = (sampleRequest 11 [8, 9]).header.tkl ∧
      SameBody (sampleRequest 11 [8, 9]) (tcpPayload openContext (sampleRequest 11 [8, 9]) CoapPacket.init
        (emptyBuffer 64)) raw' pkt' ∧
      pkt'.tcpheader.exlen = (coapTcpV1Encode openContext (sampleRequest 11 [8, 9]) CoapPacket.init
        (emptyBuffer 64)).2.2.len :=
  (coapTcpV1_roundTrip_iff openContext (sampleRequest 11 [8, 9]) CoapPacket.init CoapPacket.init (emptyBuffer 64)
    rfl rfl (fun f hf => by cases hf) (by decide) (by decide)).mpr
    ⟨⟨by decide, trivial⟩, ⟨by decide, by decide, by decide, by decide⟩, by decide⟩

/-- A body of 525 bytes: the extension is `1, 0`, and `1 << 8 | 0 + 271` is 271, not 527. -/
theorem coapTcpV1_exlen_275_of_531 :
    (coapTcpV1Encode openContext (sampleRequest 11 (List.replicate 522 9)) CoapPacket.init (emptyBuffer 1024)).1 = .ok ∧
      (coapTcpV1Encode openContext (sampleRequest 11 (List.replicate 522 9)) CoapPacket.init
        (emptyBuffer 1024)).2.2.len = 531 ∧
      (coapTcpV1Decode openContext CoapPacket.init ((coapTcpV1Encode openContext
        (sampleRequest 11 (List.replicate 522 9)) CoapPacket.init (emptyBuffer 1024)).2.2.since 0)).toOption.map
          (fun r => r.1.tcpheader.exlen) = some 275 := by
  decide +kernel

end IotConnect.Coap
