import IotConnect.Coap.TcpV1

/-! # Frames of CoAP over TCP

What `CoapTcpV1Encode` has written before it encrypts: a header, whose length field is taken from the
dry run, and the body. -/
namespace IotConnect.Coap
open Memory
set_option autoImplicit false

theorem tcpLengthField_eq (exlen : ℕ) :
    tcpLengthField exlen = ((coapCommGetExtensionBase exlen).1, extBytes exlen) := by
  unfold tcpLengthField coapCommGetExtensionBase extBytes coapDeltaUint8AddNum coapDeltaUint16AddNum
    coapDeltaUint32AddNum
  split
  · rfl
  split
  · rfl
  split <;> rfl

def tcpHeaderBytes (h : CoapHeader) (exlen : ℕ) : List UInt8 :=
  [((coapCommGetExtensionBase exlen).1 * 16 + h.tkl.val).toUInt8] ++ extBytes exlen ++ [h.code]

theorem tcpHeaderBytes_length (h : CoapHeader) (exlen : ℕ) :
    (tcpHeaderBytes h exlen).length = 2 + (extBytes exlen).length := by
  simp only [tcpHeaderBytes, List.length_append, List.length_singleton]
  omega

variable {build : CoapBuildPacket} {pkt : CoapPacket} {buf : CoapBuffer}

theorem tcpBuildHeader_ok (h : (coapTcpV1BuildHeader build pkt buf).1 = .ok) : 4 ≤ buf.room ∧
      (coapTcpV1BuildHeader build pkt buf).2 =
        ({ pkt with header := { build.header with msgId := 0, ver := 0 } },
          CoapBuffer.push { buf with len := 0 } (tcpHeaderBytes build.header pkt.tcpheader.exlen)) := by
  unfold coapTcpV1BuildHeader at h ⊢
  split at h
  · cases h
  split at h
  · cases h
  rename_i hroom hempty
  rw [if_neg hroom, if_neg hempty, tcpLengthField_eq]
  refine ⟨Nat.le_of_not_lt hroom, ?_⟩
  have hstore : store (store (store buf.buffer 1 (extBytes pkt.tcpheader.exlen)) 0
      [((coapCommGetExtensionBase pkt.tcpheader.exlen).1 * 16 + build.header.tkl.val).toUInt8])
      (1 + (extBytes pkt.tcpheader.exlen).length) [build.header.code] =
      store buf.buffer 0 (tcpHeaderBytes build.header pkt.tcpheader.exlen) := by
    rw [tcpHeaderBytes, store_append, store_append, store_comm buf.buffer 0 1 [_] _ (Nat.le_refl 1), Nat.zero_add,
      List.length_append, List.length_singleton, Nat.zero_add]
  have hlen : 1 + (extBytes pkt.tcpheader.exlen).length + 1 =
      0 + (tcpHeaderBytes build.header pkt.tcpheader.exlen).length := by
    rw [tcpHeaderBytes_length]
    omega
  simp only [hstore, CoapBuffer.push, hlen]

theorem tcpBuildHeader_ok_iff (build : CoapBuildPacket) (pkt : CoapPacket) (buf : CoapBuffer) :
    (coapTcpV1BuildHeader build pkt buf).1 = .ok ↔ 4 ≤ buf.room ∧
      ¬ (build.header.code = 0 ∧ (build.header.tkl ≠ 0 ∨ build.payload.isSome ∨ build.buildFunc.isSome)) := by
  unfold coapTcpV1BuildHeader coapTcpV1CoapHeaderLen coapTcpV1RawHeaderLen
  by_cases hroom : 4 ≤ buf.room
  · rw [if_neg (by omega)]
    by_cases hempty : build.header.code = 0 ∧ (build.header.tkl ≠ 0 ∨ build.payload.isSome ∨ build.buildFunc.isSome)
    · simp [hempty]
    · rw [if_neg hempty]
      exact ⟨fun _ => ⟨hroom, hempty⟩, fun _ => rfl⟩
  · rw [if_pos (by omega)]
    exact ⟨fun h => (by cases h), fun h => absurd h.1 hroom⟩

def tcpHeadBytes (build : CoapBuildPacket) (exlen : ℕ) : List UInt8 :=
  tcpHeaderBytes build.header exlen ++ bodyBytes build []

/-- The builders up to the payload marker, as both the encoder and the encryption run them. -/
def tcpEncodeHead (build : CoapBuildPacket) (pkt : CoapPacket) (buf : CoapBuffer) : Built :=
  ((coapTcpV1BuildHeader build pkt buf).andThen (coapCommBuildToken build)).andThen (coapCommBuildOption build)

theorem tcpEncodeHead_ok (h : (tcpEncodeHead build pkt buf).1 = .ok) :
    build.header.tkl.val ≤ 8 ∧ OptionsOk build.options ∧
      (tcpHeadBytes build pkt.tcpheader.exlen).length ≤ buf.size + 1 ∧
      (tcpEncodeHead build pkt buf).2.2 =
        CoapBuffer.push { buf with len := 0 } (tcpHeadBytes build pkt.tcpheader.exlen) ∧
      (tcpEncodeHead build pkt buf).2.1.payload = pkt.payload ∧
      (tcpEncodeHead build pkt buf).2.1.tcpheader = pkt.tcpheader := by
  unfold tcpEncodeHead at h ⊢
  obtain ⟨hht, hopt⟩ := Built.andThen_ok_iff.mp h
  obtain ⟨hh, ht⟩ := Built.andThen_ok_iff.mp hht
  rw [Built.andThen_of_ok hht]
  rw [Built.andThen_of_ok hh] at hopt ⊢
  obtain ⟨-, hheader⟩ := tcpBuildHeader_ok hh
  rw [hheader] at ht hopt ⊢
  obtain ⟨h8, -, htok⟩ := buildToken_ok ht
  rw [htok] at hopt ⊢
  obtain ⟨hopts, hfit⟩ := (buildOption_ok_iff _ _ _).mp hopt
  obtain ⟨opNum, options, heq⟩ := buildOption_ok hopt
  rw [heq]
  refine ⟨h8, hopts, ?_, ?_, rfl, rfl⟩
  · simp only [CoapBuffer.push_len, CoapBuffer.push_size, load_length] at hfit
    simp only [tcpHeadBytes, bodyBytes, List.length_append, load_length, List.length_singleton, List.length_nil]
    omega
  · simp only [CoapBuffer.push_push, tcpHeadBytes, bodyBytes, List.append_assoc, List.append_nil]

theorem tcpEncodeHead_again {pkt' : CoapPacket} {buf' : CoapBuffer}
    (h : (tcpEncodeHead build pkt buf).1 = .ok) (hexlen : pkt'.tcpheader.exlen = pkt.tcpheader.exlen)
    (hsize : buf'.size = buf.size) : (tcpEncodeHead build pkt' buf').1 = .ok ↔ 4 ≤ buf'.room := by
  unfold tcpEncodeHead at h ⊢
  obtain ⟨hht, hopt⟩ := Built.andThen_ok_iff.mp h
  obtain ⟨hh, ht⟩ := Built.andThen_ok_iff.mp hht
  rw [Built.andThen_of_ok hh] at hopt
  have hempty := ((tcpBuildHeader_ok_iff build pkt buf).mp hh).2
  rw [(tcpBuildHeader_ok hh).2] at ht hopt
  rw [Built.andThen_ok_iff, Built.andThen_ok_iff, tcpBuildHeader_ok_iff]
  constructor
  · exact fun h => h.1.1.1
  · intro hroom
    have hh' : (coapTcpV1BuildHeader build pkt' buf').1 = .ok :=
      (tcpBuildHeader_ok_iff build pkt' buf').mpr ⟨hroom, hempty⟩
    obtain ⟨-, hheader'⟩ := tcpBuildHeader_ok hh'
    rw [Built.andThen_of_ok hh', hheader', hexlen]
    obtain ⟨h8, hfit, htok⟩ := buildToken_ok ht
    have ht' : (coapCommBuildToken build { pkt' with header := { build.header with msgId := 0, ver := 0 } }
        (CoapBuffer.push { buf' with len := 0 } (tcpHeaderBytes build.header pkt.tcpheader.exlen))).1 = .ok :=
      buildToken_of_fits h8 (by simpa [hsize] using hfit)
    obtain ⟨-, -, htok'⟩ := buildToken_ok ht'
    refine ⟨⟨⟨hroom, hempty⟩, ht'⟩, ?_⟩
    rw [htok']
    rw [htok] at hopt
    rw [buildOption_ok_iff] at hopt ⊢
    exact ⟨hopt.1, by simpa [hsize] using hopt.2⟩

/-! ## The frame before encryption -/

def tcpExlen (ctx : M2mCloudContext) (build : CoapBuildPacket) (pkt : CoapPacket) (buf : CoapBuffer) : ℕ :=
  (tcpDryRun ctx build pkt buf).1.tcpheader.exlen

def tcpPayload (ctx : M2mCloudContext) (build : CoapBuildPacket) (pkt : CoapPacket) (buf : CoapBuffer) : List UInt8 :=
  sentPayload build (tcpEncodeHead build (tcpDryRun ctx build pkt buf).1 (tcpDryRun ctx build pkt buf).2).2.2

section Plain
variable {ctx : M2mCloudContext} {build : CoapBuildPacket} {pkt : CoapPacket} {buf : CoapBuffer}

theorem tcpDryRun_size (ctx : M2mCloudContext) (build : CoapBuildPacket) (pkt : CoapPacket) (buf : CoapBuffer) :
    (tcpDryRun ctx build pkt buf).2.size = buf.size := by
  unfold tcpDryRun
  dsimp only
  rw [buildPayload_size, buildOption_size]

/-- **Before encryption the frame is the header and the body, from the start of the buffer on, and
the packet points to the payload behind the marker.** -/
theorem tcpV1EncodePlain_ok (h : (tcpV1EncodePlain ctx build pkt buf).1 = .ok) :
    build.header.tkl.val ≤ 8 ∧ OptionsOk build.options ∧
      (tcpEncodeHead build (tcpDryRun ctx build pkt buf).1 (tcpDryRun ctx build pkt buf).2).1 = .ok ∧
      (tcpHeadBytes build (tcpExlen ctx build pkt buf)).length ≤ buf.size ∧
      (tcpV1EncodePlain ctx build pkt buf).2.2 = CoapBuffer.push { (tcpDryRun ctx build pkt buf).2 with len := 0 }
        (tcpHeadBytes build (tcpExlen ctx build pkt buf) ++ tcpPayload ctx build pkt buf) ∧
      (tcpV1EncodePlain ctx build pkt buf).2.1.tcpheader.exlen = tcpExlen ctx build pkt buf ∧
      (build.payload.isSome ∨ build.buildFunc.isSome → 0 < (tcpPayload ctx build pkt buf).length ∧
        (tcpV1EncodePlain ctx build pkt buf).2.1.payload =
          ⟨some (tcpHeadBytes build (tcpExlen ctx build pkt buf)).length, (tcpPayload ctx build pkt buf).length⟩) := by
  unfold tcpV1EncodePlain at h ⊢
  split at h
  · cases h
  rename_i hsize
  rw [if_neg hsize]
  dsimp only at h ⊢
  rw [← tcpEncodeHead] at h ⊢
  obtain ⟨hh, hp⟩ := Built.andThen_ok_iff.mp h
  obtain ⟨h8, hopts, -, hbuf, -, hexlen⟩ := tcpEncodeHead_ok hh
  obtain ⟨hle, hbuf', hpkt⟩ := buildPayload_ok hp
  rw [Built.andThen_of_ok hh]
  rw [← tcpPayload] at hbuf' hpkt
  rw [← tcpExlen] at hbuf
  refine ⟨h8, hopts, hh, ?_, ?_, ?_, ?_⟩
  · rw [hbuf, CoapBuffer.push_len, CoapBuffer.push_size, Nat.zero_add] at hle
    exact Nat.le_trans hle (Nat.le_of_eq (tcpDryRun_size ctx build pkt buf))
  · rw [hbuf', hbuf, CoapBuffer.push_push]
  · rcases hpkt with ⟨-, -, heq⟩ | ⟨-, heq⟩
    · rw [heq, hexlen, tcpExlen]
    · rw [heq]
      dsimp only
      rw [hexlen, tcpExlen]
  · intro hsome
    rcases hpkt with ⟨hp0, hf0, -⟩ | ⟨hpos, heq⟩
    · simp [hp0, hf0] at hsome
    · rw [heq, hbuf, CoapBuffer.push_len, Nat.zero_add]
      exact ⟨hpos, rfl⟩

end Plain

end IotConnect.Coap
