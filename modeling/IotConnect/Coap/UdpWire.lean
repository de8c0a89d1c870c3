import IotConnect.Coap.Udp

/-! # What the UDP encoder leaves in the buffer

The payload marker is written behind the options without a look at the room that is left, and also where
no payload follows. So a head that fills the buffer puts the marker behind its end
(`udpEncode_inside_iff`), and a message without a payload is none of RFC 7252 (`udpEncode_rfc_iff`). -/
namespace IotConnect.Coap
open Memory
set_option autoImplicit false

/-! ## The bounds of the buffer -/

/-- How many bytes of options are written to `room` bytes before the first option that is refused. -/
def takenOptions (prev : UInt16) (room : ℕ) : List BuildOption → ℕ
  | [] => 0
  | o :: os =>
    if o.value.len ≤ 65805 ∧ (optionBytes prev o).length ≤ room then
      (optionBytes prev o).length + takenOptions o.option (room - (optionBytes prev o).length) os
    else 0

/-- Options that are too many or not in order are refused before the first one is written. -/
def writtenOptions (build : CoapBuildPacket) (room : ℕ) : ℕ :=
  if build.options.length ≤ coapOptionMaxNum ∧ optionsAscend 0 build.options = true then
    takenOptions 0 room build.options
  else 0

/-- The header and the token are written. -/
def HeadTaken (build : CoapBuildPacket) (buf : CoapBuffer) : Prop :=
  coapUdpHeaderLen + build.header.tkl.val ≤ buf.size - buf.len ∧
    (build.header.code = 0 → build.header.tkl = 0 ∧ build.payload = none ∧ build.buildFunc = none)

/-- A byte is left for the marker behind the options. -/
def MarkerFits (build : CoapBuildPacket) (buf : CoapBuffer) : Prop :=
  HeadTaken build buf → coapUdpHeaderLen + build.header.tkl.val +
    writtenOptions build (buf.size - buf.len - (coapUdpHeaderLen + build.header.tkl.val)) < buf.size - buf.len

/-- A payload callback that appends no more than the room of the buffer it is given. -/
def ModestCallback (build : CoapBuildPacket) : Prop :=
  ∀ f, build.buildFunc = some f → ∀ b : CoapBuffer, b.len ≤ b.size → b.len + (f b).2.length ≤ b.size

/-- The builder appends some bytes, all of them inside the buffer. -/
def AppendsInside (buf buf' : CoapBuffer) : Prop := ∃ l, buf' = buf.push l ∧ buf.len + l.length ≤ buf.size

section Bounds
variable {build : CoapBuildPacket} {pkt : CoapPacket} {buf buf' buf'' : CoapBuffer}

theorem AppendsInside.refl (h : buf.len ≤ buf.size) : AppendsInside buf buf :=
  ⟨[], (CoapBuffer.push_nil buf).symm, h⟩

theorem AppendsInside.trans (h : AppendsInside buf buf') (h' : AppendsInside buf' buf'') : AppendsInside buf buf'' := by
  obtain ⟨l, rfl, -⟩ := h
  obtain ⟨l', rfl, hl'⟩ := h'
  refine ⟨l ++ l', CoapBuffer.push_push _ _ _, ?_⟩
  rw [CoapBuffer.push_len, CoapBuffer.push_size] at hl'
  rw [List.length_append]
  omega

theorem AppendsInside.len_le (h : AppendsInside buf buf') : buf'.len ≤ buf'.size := by
  obtain ⟨l, rfl, hl⟩ := h
  exact hl

theorem AppendsInside.size_eq (h : AppendsInside buf buf') : buf'.size = buf.size := by
  obtain ⟨l, rfl, -⟩ := h
  rfl

theorem buildOptionLoop_taken (os : List BuildOption) (prev : UInt16) (index : ℕ) (pkt : CoapPacket)
    (buf : CoapBuffer) (hle : buf.len ≤ buf.size) :
    AppendsInside buf (buildOptionLoop prev index pkt buf os).2.2 ∧
      (buildOptionLoop prev index pkt buf os).2.2.len = buf.len + takenOptions prev (buf.size - buf.len) os := by
  induction os generalizing prev index pkt buf with
  | nil => exact ⟨.refl hle, rfl⟩
  | cons o os ih =>
    unfold buildOptionLoop takenOptions
    rcases buildSingleOption_cases prev o index pkt buf hle with ⟨hlen, hfit, options, heq⟩ | ⟨hno, ret, hret, heq⟩
    · rw [heq, Built.andThen_of_ok rfl, if_pos ⟨hlen, by omega⟩]
      obtain ⟨hin, hend⟩ := ih o.option (index + 1) { pkt with options := options } (buf.push (optionBytes prev o)) hfit
      refine ⟨.trans ⟨_, rfl, hfit⟩ hin, ?_⟩
      rw [hend, CoapBuffer.push_len, CoapBuffer.push_size, Nat.sub_add_eq, Nat.add_assoc]
    · rw [heq, Built.andThen, if_neg hret, if_neg fun h => hno ⟨h.1, by omega⟩]
      exact ⟨.refl hle, rfl⟩

theorem buildOption_written (build : CoapBuildPacket) (pkt : CoapPacket) (buf : CoapBuffer)
    (hle : buf.len ≤ buf.size) : ∃ before, AppendsInside buf before ∧
      before.len = buf.len + writtenOptions build (buf.size - buf.len) ∧
      (coapCommBuildOption build pkt buf).2.2 = before.push [0xFF] := by
  have hrefused : ¬ (build.options.length ≤ coapOptionMaxNum ∧ optionsAscend 0 build.options = true) →
      buf.len = buf.len + writtenOptions build (buf.size - buf.len) := fun h => by rw [writtenOptions, if_neg h]; rfl
  unfold coapCommBuildOption
  rw [if_neg (not_not.mpr hle)]
  by_cases hnil : build.options = []
  · rw [if_pos (by rw [hnil]; rfl)]
    exact ⟨buf, .refl hle, by simp [writtenOptions, takenOptions, hnil], rfl⟩
  rw [if_neg fun h => hnil (List.length_eq_zero_iff.mp h)]
  by_cases hnum : build.options.length ≤ coapOptionMaxNum
  swap
  · rw [if_pos (Nat.lt_of_not_le hnum)]
    exact ⟨buf, .refl hle, hrefused fun h => hnum h.1, rfl⟩
  rw [if_neg (Nat.not_lt.mpr hnum)]
  by_cases hasc : optionsAscend 0 build.options = true
  swap
  · rw [if_pos (Bool.not_eq_true _ ▸ hasc)]
    exact ⟨buf, .refl hle, hrefused fun h => hasc h.2, rfl⟩
  rw [if_neg (by simp [hasc])]
  obtain ⟨hin, hend⟩ := buildOptionLoop_taken build.options 0 0 pkt buf hle
  refine ⟨_, hin, by rw [writtenOptions, if_pos ⟨hnum, hasc⟩]; exact hend, ?_⟩
  dsimp only
  split <;> rfl

theorem buildPayload_inside (hcb : ModestCallback build) (hle : buf.len ≤ buf.size) :
    AppendsInside buf (coapCommBuildPayload build pkt buf).2.2 := by
  unfold coapCommBuildPayload
  rw [if_neg (not_not.mpr hle)]
  split
  · exact .refl hle
  split
  · exact .refl hle
  dsimp only
  split
  · rename_i f hf
    have hroom := hcb f hf buf hle
    unfold buildPayloadByCallback
    dsimp only
    split <;> exact ⟨_, rfl, hroom⟩
  · rename_i payload _ _
    cases payload with
    | null n => exact .refl hle
    | bytes l =>
      unfold buildPayloadByData
      rw [CoapBuffer.room_of_le hle]
      dsimp only
      split
      · exact .refl hle
      split
      · exact .refl hle
      rename_i hpos hroom
      rw [memcpyS_of_le _ _ _ _ (by omega) (by omega)]
      exact ⟨l, rfl, by omega⟩
  · exact .refl hle

theorem udpBuildHeader_taken_iff (build : CoapBuildPacket) (pkt : CoapPacket) (buf : CoapBuffer) :
    (coapUdpBuildHeader build pkt buf).1 = .ok ↔ coapUdpHeaderLen ≤ buf.room ∧
      (build.header.code = 0 → build.header.tkl = 0 ∧ build.payload = none ∧ build.buildFunc = none) := by
  unfold coapUdpBuildHeader
  split
  · refine iff_of_false (fun h => by cases h) fun h => ?_
    omega
  split
  · rename_i hempty
    refine iff_of_false (fun h => by cases h) fun h => ?_
    obtain ⟨htkl, hp, hf⟩ := h.2 hempty.1
    simp [htkl, hp, hf] at hempty
  · rename_i hroom hempty
    refine ⟨fun _ => ⟨by omega, fun hcode => ?_⟩, fun _ => rfl⟩
    simpa [hcode, not_or, Option.isSome_iff_ne_none] using hempty

theorem udpBuildHeader_failed (h : (coapUdpBuildHeader build pkt buf).1 ≠ .ok) :
    (coapUdpBuildHeader build pkt buf).2.2 = buf := by
  unfold coapUdpBuildHeader at h ⊢
  split
  · rfl
  split
  · rfl
  · rename_i hroom hempty
    rw [if_neg hroom, if_neg hempty] at h
    exact absurd rfl h

theorem buildToken_failed (h : (coapCommBuildToken build pkt buf).1 ≠ .ok) :
    (coapCommBuildToken build pkt buf).2.2 = buf := by
  unfold coapCommBuildToken memcpyS at h ⊢
  dsimp only at h ⊢
  split_ifs at h ⊢ <;> first | rfl | exact absurd rfl h

/-- The buffer when `CoapCommBuildOption` is called, and when it is not. -/
theorem udpEncodeHead_cases (pkt : CoapPacket) (h8 : build.header.tkl.val ≤ 8) (hle : buf.len ≤ buf.size) :
    (¬ HeadTaken build buf ∧ (udpEncodeHead build pkt buf).1 ≠ .ok ∧
      AppendsInside buf (udpEncodeHead build pkt buf).2.2) ∨
    (HeadTaken build buf ∧ ∃ before, AppendsInside buf before ∧
      before.len = buf.len + (coapUdpHeaderLen + build.header.tkl.val +
        writtenOptions build (buf.size - buf.len - (coapUdpHeaderLen + build.header.tkl.val))) ∧
      (udpEncodeHead build pkt buf).2.2 = before.push [0xFF]) := by
  unfold udpEncodeHead HeadTaken
  have htaken := udpBuildHeader_taken_iff build pkt buf
  rw [CoapBuffer.room_of_le hle] at htaken
  by_cases hh : (coapUdpBuildHeader build pkt buf).1 = .ok
  swap
  · refine .inl ⟨fun h => hh (htaken.mpr ⟨by omega, h.2⟩), ?_⟩
    have hne : ¬ ((coapUdpBuildHeader build pkt buf).andThen (coapCommBuildToken build)).1 = .ok :=
      fun h => hh (Built.andThen_ok_iff.mp h).1
    rw [Built.andThen, if_neg hne, Built.andThen, if_neg hh, udpBuildHeader_failed hh]
    exact ⟨hh, .refl hle⟩
  have hheader := udpBuildHeader_ok hh
  obtain ⟨hroom, hempty⟩ := htaken.mp hh
  have hhead : AppendsInside buf (coapUdpBuildHeader build pkt buf).2.2 := by
    rw [hheader]
    unfold coapUdpHeaderLen at hroom
    refine ⟨_, rfl, ?_⟩
    simp only [udpHeaderBytes, List.length_cons, List.length_nil]
    omega
  have hlen : (coapUdpBuildHeader build pkt buf).2.2.len = buf.len + coapUdpHeaderLen := by
    rw [hheader]
    rfl
  have hsize := hhead.size_eq
  rw [Built.andThen_of_ok hh]
  generalize coapUdpBuildHeader build pkt buf = r at hhead hlen hsize
  by_cases ht : (coapCommBuildToken build r.2.1 r.2.2).1 = .ok
  · obtain ⟨-, hfit, htok⟩ := buildToken_ok ht
    have htoken : AppendsInside r.2.2 (coapCommBuildToken build r.2.1 r.2.2).2.2 := by
      rw [htok]
      exact ⟨_, rfl, by rw [load_length]; exact hfit⟩
    have hlen' : (coapCommBuildToken build r.2.1 r.2.2).2.2.len = buf.len + (coapUdpHeaderLen + build.header.tkl.val) := by
      rw [htok, CoapBuffer.push_len, load_length, hlen, Nat.add_assoc]
    refine .inr ⟨⟨by omega, hempty⟩, ?_⟩
    rw [Built.andThen_of_ok ht]
    obtain ⟨before, hin, hend, heq⟩ := buildOption_written build (coapCommBuildToken build r.2.1 r.2.2).2.1
      (coapCommBuildToken build r.2.1 r.2.2).2.2 htoken.len_le
    refine ⟨before, (hhead.trans htoken).trans hin, ?_, heq⟩
    rw [hend, hlen', htoken.size_eq, hsize, Nat.sub_add_eq, Nat.add_assoc]
  · refine .inl ⟨fun h => ht (buildToken_of_fits h8 (by omega)), ?_⟩
    rw [Built.andThen, if_neg ht, buildToken_failed ht]
    exact ⟨ht, hhead⟩

end Bounds

/-- The whole message fits behind what the buffer holds. -/
def MessageFits (build : CoapBuildPacket) (pkt : CoapPacket) (buf : CoapBuffer) : Prop :=
  buf.len + (udpHeaderBytes { build.header with ver := coapUdpVer } ++
    bodyBytes build (udpPayload build pkt buf)).length ≤ buf.size

/-- **The encoder writes inside its buffer, leaves its end there and refuses what does not fit, exactly when
header, token and the options that are taken leave a byte for the payload marker.** -/
theorem udpEncode_inside_iff (build : CoapBuildPacket) (pkt : CoapPacket) (buf : CoapBuffer)
    (h8 : build.header.tkl.val ≤ 8) (hcb : ModestCallback build) (hle : buf.len ≤ buf.size) :
    (AppendsInside buf (coapUdpEncode build pkt buf).2.2 ∧
      (coapUdpEncode build pkt buf).2.2.len ≤ (coapUdpEncode build pkt buf).2.2.size ∧
      (¬ MessageFits build pkt buf → (coapUdpEncode build pkt buf).1 ≠ .ok)) ↔ MarkerFits build buf := by
  have hrefuse : AppendsInside buf (coapUdpEncode build pkt buf).2.2 → ¬ MessageFits build pkt buf →
      (coapUdpEncode build pkt buf).1 ≠ .ok := by
    intro hin hno hok
    have hend := hin.len_le
    rw [(coapUdpEncode_ok hok).2.2] at hend
    exact hno hend
  suffices h : AppendsInside buf (coapUdpEncode build pkt buf).2.2 ↔ MarkerFits build buf from
    ⟨fun hall => h.mp hall.1, fun hm => ⟨h.mpr hm, (h.mpr hm).len_le, hrefuse (h.mpr hm)⟩⟩
  unfold coapUdpEncode MarkerFits
  by_cases hzero : buf.size = 0
  · rw [if_pos hzero]
    refine iff_of_true (.refl hle) fun hhead => ?_
    have := hhead.1
    unfold coapUdpHeaderLen at this
    omega
  rw [if_neg hzero]
  rcases udpEncodeHead_cases pkt h8 hle with ⟨hno, hne, hin⟩ | ⟨htaken, before, hin, hend, heq⟩
  · rw [Built.andThen, if_neg hne]
    exact iff_of_true hin fun h => absurd h hno
  have hsize := hin.size_eq
  refine Iff.trans ?_ ⟨fun h _ => h, fun h => h htaken⟩
  by_cases hfits : before.len < buf.size
  · refine iff_of_true ?_ (by omega)
    have hmark : AppendsInside buf (udpEncodeHead build pkt buf).2.2 := by
      rw [heq]
      exact hin.trans ⟨[0xFF], rfl, by rw [List.length_singleton]; omega⟩
    unfold Built.andThen
    split
    · exact hmark.trans (buildPayload_inside hcb hmark.len_le)
    · exact hmark
  · refine iff_of_false (fun hall => ?_) (by omega)
    -- the payload builder does not take the marker back
    have hover : (udpEncodeHead build pkt buf).2.2.len = buf.size + 1 := by
      rw [heq, CoapBuffer.push_len, List.length_singleton]
      have := hin.len_le
      omega
    have hsame : (udpEncodeHead build pkt buf).2.2.size = buf.size := by
      rw [heq, CoapBuffer.push_size, hsize]
    have hlast := hall.len_le
    unfold Built.andThen coapCommBuildPayload at hlast
    split at hlast
    · rw [if_pos (by omega)] at hlast
      dsimp only at hlast
      omega
    · omega

theorem udpEncode_inside_request :
    AppendsInside (emptyBuffer 64) (coapUdpEncode (sampleRequest 11 [8, 9]) CoapPacket.init (emptyBuffer 64)).2.2 :=
  ((udpEncode_inside_iff (sampleRequest 11 [8, 9]) CoapPacket.init (emptyBuffer 64) (by decide)
    (fun _ h => by cases h) (by decide)).mpr fun _ => by decide).1

/-- A request with neither token, options nor payload. -/
def bareRequest : CoapBuildPacket where
  header := ⟨0, 0, 0, 1, 0x1234⟩
  token := fun _ => 0
  options := []
  payload := none
  buildFunc := none

/-- The four bytes of the header fill the buffer, and the marker is written behind it. -/
theorem udpEncode_writes_behind : ModestCallback bareRequest ∧
    ¬ AppendsInside (emptyBuffer 4) (coapUdpEncode bareRequest CoapPacket.init (emptyBuffer 4)).2.2 ∧
      (coapUdpEncode bareRequest CoapPacket.init (emptyBuffer 4)).2.2.buffer 4 = 0xFF ∧
      (coapUdpEncode bareRequest CoapPacket.init (emptyBuffer 4)).2.2.len = 5 := by
  refine ⟨(fun _ h => by cases h), fun h => ?_, by decide, by decide⟩
  exact absurd h.len_le (by decide)

/-! ## Messages of RFC 7252 -/

/-- The half byte and the extension that stand for a delta or a length; 15 is reserved, so that larger
values cannot be written. -/
def rfcNibble (value : ℕ) : Option (ℕ × List UInt8) :=
  if value < 13 then some (value, [])
  else if value < 269 then some (13, [(value - 13).toUInt8])
  else if value < 65805 then some (14, [((value - 269) / 2 ^ 8).toUInt8, (value - 269).toUInt8])
  else none

def rfcOption (prev : UInt16) (o : BuildOption) : Option (List UInt8) :=
  (rfcNibble (optionDelta prev o)).bind fun d =>
    (rfcNibble o.value.len).map fun l => [(d.1 * 16 + l.1).toUInt8] ++ d.2 ++ l.2 ++ o.value.sent

def rfcOptions (prev : UInt16) : List BuildOption → Option (List UInt8)
  | [] => some []
  | o :: os => (rfcOption prev o).bind fun b => (rfcOptions o.option os).map (b ++ ·)

/-- The marker stands between the options and the payload, if there is one. -/
def rfcPayload (payload : List UInt8) : List UInt8 := if payload = [] then [] else [0xFF] ++ payload

/-- The message of the packet, unless it has none. -/
def rfcMessage (build : CoapBuildPacket) (payload : List UInt8) : Option (List UInt8) :=
  (rfcOptions 0 build.options).map fun os => udpHeaderBytes { build.header with ver := coapUdpVer } ++
    (load build.token 0 build.header.tkl.val ++ (os ++ rfcPayload payload))

section Rfc
variable {prev : UInt16} {o : BuildOption}

theorem rfcNibble_eq (value : ℕ) (h269 : value ≠ 269) (h : value < 65805) :
    rfcNibble value = some ((coapCommGetExtensionBase value).1, extBytes value) := by
  unfold rfcNibble coapCommGetExtensionBase extBytes coapDeltaUint8AddNum coapDeltaUint16AddNum coapDeltaUint32AddNum
  by_cases h13 : value < 13
  · rw [if_pos h13, if_pos h13, if_pos h13]
  rw [if_neg h13, if_neg h13, if_neg h13]
  by_cases hlow : value < 269
  · rw [if_pos hlow, if_pos (by omega), if_pos (by omega)]
    rfl
  · have hhigh : ¬ value ≤ 269 := by omega
    rw [if_neg hlow, if_pos h, if_neg hhigh, if_neg hhigh, if_pos h.le, if_pos h.le]
    rfl

theorem rfcNibble_lt {value : ℕ} {d : ℕ × List UInt8} (h : rfcNibble value = some d) : value < 65805 ∧ d.1 ≤ 14 := by
  unfold rfcNibble at h
  split_ifs at h <;> cases h <;> dsimp only <;> omega

/-- The builder writes the first byte of an option as the grammar has it only where no value is 269. -/
theorem rfcOption_head (hlen : o.value.len ≤ 65805) {b : List UInt8} (h : rfcOption prev o = some b) {rest rest' : List UInt8}
    (heq : optionBytes prev o ++ rest = b ++ rest') :
    optionDelta prev o ≠ 269 ∧ o.value.len ≠ 269 ∧ o.value.len ≠ 65805 := by
  obtain ⟨d, hd, h⟩ := Option.bind_eq_some_iff.mp h
  obtain ⟨l, hl, rfl⟩ := Option.map_eq_some_iff.mp h
  obtain ⟨-, hd14⟩ := rfcNibble_lt hd
  obtain ⟨hllt, hl14⟩ := rfcNibble_lt hl
  have hhead : optionHead prev o = (d.1 * 16 + l.1).toUInt8 := by
    simp only [optionBytes, List.cons_append, List.cons.injEq] at heq
    exact heq.1
  have hval := congrArg UInt8.toNat hhead
  rw [optionHead_toNat prev o hlen, toNat_toUInt8, Nat.mod_eq_of_lt (by omega)] at hval
  have hbase1 := extensionBase_le (optionDelta prev o) (by have := optionDelta_le prev o; omega)
  have hbase2 := extensionBase_le o.value.len hlen
  have h269 : rfcNibble 269 = some (14, [0, 0]) := by decide
  have hbase269 : (coapCommGetExtensionBase 269).1 = 13 := by decide
  refine ⟨fun hdelta => ?_, fun hlen' => ?_, by omega⟩
  · rw [hdelta, h269] at hd
    cases hd
    rw [hdelta, hbase269] at hval
    omega
  · rw [hlen', h269] at hl
    cases hl
    rw [hlen', hbase269] at hval
    omega

theorem rfcOption_eq (h : optionDelta prev o ≠ 269 ∧ o.value.len ≠ 269 ∧ o.value.len ≠ 65805)
    (hlen : o.value.len ≤ 65805) : rfcOption prev o = some (optionBytes prev o) := by
  have hdelta := optionDelta_le prev o
  rw [rfcOption, rfcNibble_eq _ h.1 (by omega), Option.bind_some, rfcNibble_eq _ h.2.1 (by omega)]
  rfl

theorem rfcPayload_eq_iff (payload : List UInt8) : [0xFF] ++ payload = rfcPayload payload ↔ payload ≠ [] := by
  unfold rfcPayload
  by_cases hnil : payload = []
  · rw [if_pos hnil]
    simp [hnil]
  · rw [if_neg hnil]
    exact iff_of_true rfl hnil

/-- Options, marker and payload as they are built are those of the grammar. -/
theorem rfcOptions_eq_iff (payload : List UInt8) (os : List BuildOption) (prev : UInt16)
    (hlen : ∀ o ∈ os, o.value.len ≤ 65805) :
    (∃ b, rfcOptions prev os = some b ∧ optionsBytes prev os ++ ([0xFF] ++ payload) = b ++ rfcPayload payload) ↔
      payload ≠ [] ∧ Plain prev os := by
  induction os generalizing prev with
  | nil => simp [rfcOptions, optionsBytes, Plain, ← rfcPayload_eq_iff]
  | cons o os ih =>
    obtain ⟨ho, hos⟩ := List.forall_mem_cons.mp hlen
    have ih := ih o.option hos
    unfold optionsBytes Plain
    rw [List.append_assoc]
    constructor
    · rintro ⟨b, hb, heq⟩
      obtain ⟨b1, hb1, hb⟩ := Option.bind_eq_some_iff.mp hb
      obtain ⟨b2, hb2, rfl⟩ := Option.map_eq_some_iff.mp hb
      rw [List.append_assoc] at heq
      have hplain := rfcOption_head ho hb1 heq
      rw [rfcOption_eq hplain ho] at hb1
      cases hb1
      obtain ⟨hpay, hrest⟩ := ih.mp ⟨b2, hb2, List.append_cancel_left heq⟩
      exact ⟨hpay, hplain, hrest⟩
    · rintro ⟨hpay, hplain, hrest⟩
      obtain ⟨b, hb, heq⟩ := ih.mpr ⟨hpay, hrest⟩
      refine ⟨optionBytes prev o ++ b, ?_, by rw [heq, List.append_assoc]⟩
      rw [rfcOptions, rfcOption_eq hplain ho, hb]
      rfl

end Rfc

theorem CoapBuffer.push_inj (buf : CoapBuffer) {l l' : List UInt8} (h : buf.push l = buf.push l') : l = l' := by
  have hlen : l.length = l'.length := by
    have := congrArg CoapBuffer.len h
    rw [CoapBuffer.push_len, CoapBuffer.push_len] at this
    omega
  have hmem := congrArg (fun b => load b.buffer buf.len l.length) h
  dsimp only [CoapBuffer.push_buffer] at hmem
  rwa [load_store_self, hlen, load_store_self] at hmem

/-- **What was encoded is a message of RFC 7252 exactly when the packet has a payload and none of its options
has a delta of 269 or a value of 269 or 65805 bytes.** -/
theorem udpEncode_rfc_iff (build : CoapBuildPacket) (pkt : CoapPacket) (buf : CoapBuffer)
    (hok : (coapUdpEncode build pkt buf).1 = .ok) :
    (∃ bytes, (coapUdpEncode build pkt buf).2.2 = buf.push bytes ∧
      rfcMessage build (udpPayload build pkt buf) = some bytes) ↔
      (build.payload.isSome ∨ build.buildFunc.isSome) ∧ Plain 0 build.options := by
  obtain ⟨-, hopts, hbuf⟩ := coapUdpEncode_ok hok
  have hpayload : udpPayload build pkt buf ≠ [] ↔ (build.payload.isSome ∨ build.buildFunc.isSome) := by
    unfold coapUdpEncode at hok
    split at hok
    · cases hok
    obtain ⟨-, hp⟩ := Built.andThen_ok_iff.mp hok
    obtain ⟨-, -, ⟨hnone, hfunc, -⟩ | ⟨hpos, -⟩⟩ := buildPayload_ok hp
    · simp [udpPayload, sentPayload, hnone, hfunc]
    · refine iff_of_true (List.length_pos_iff.mp hpos) ?_
      unfold sentPayload at hpos
      cases hf : build.buildFunc with
      | some f => exact .inr rfl
      | none =>
        cases hd : build.payload with
        | some d => exact .inl rfl
        | none =>
          rw [hf, hd] at hpos
          cases hpos
  rw [← hpayload, ← rfcOptions_eq_iff _ _ _ hopts.len, hbuf]
  constructor
  · rintro ⟨bytes, hbytes, hmsg⟩
    obtain ⟨b, hb, rfl⟩ := Option.map_eq_some_iff.mp hmsg
    have heq := CoapBuffer.push_inj buf hbytes
    rw [bodyBytes, List.append_assoc] at heq
    exact ⟨b, hb, List.append_cancel_left (List.append_cancel_left heq)⟩
  · rintro ⟨b, hb, heq⟩
    refine ⟨_, rfl, ?_⟩
    rw [rfcMessage, hb, bodyBytes, List.append_assoc, heq]
    rfl

theorem udpEncode_rfc_request : ∃ bytes,
    (coapUdpEncode (sampleRequest 268 [8, 9]) CoapPacket.init (emptyBuffer 64)).2.2 = (emptyBuffer 64).push bytes ∧
      rfcMessage (sampleRequest 268 [8, 9]) (udpPayload (sampleRequest 268 [8, 9]) CoapPacket.init (emptyBuffer 64)) =
        some bytes :=
  (udpEncode_rfc_iff (sampleRequest 268 [8, 9]) CoapPacket.init (emptyBuffer 64) (by decide)).mpr
    ⟨.inl rfl, by decide, trivial⟩

/-- The marker ends a message without a payload. -/
theorem udpEncode_marker_last :
    (coapUdpEncode bareRequest CoapPacket.init (emptyBuffer 16)).1 = .ok ∧
      udpPayload bareRequest CoapPacket.init (emptyBuffer 16) = [] ∧
      (coapUdpEncode bareRequest CoapPacket.init (emptyBuffer 16)).2.2 =
        (emptyBuffer 16).push [0x40, 1, 0x12, 0x34, 0xFF] ∧
      ¬ ∃ bytes, (coapUdpEncode bareRequest CoapPacket.init (emptyBuffer 16)).2.2 = (emptyBuffer 16).push bytes ∧
        rfcMessage bareRequest (udpPayload bareRequest CoapPacket.init (emptyBuffer 16)) = some bytes := by
  have hpush : (coapUdpEncode bareRequest CoapPacket.init (emptyBuffer 16)).2.2 =
      (emptyBuffer 16).push [0x40, 1, 0x12, 0x34, 0xFF] := (coapUdpEncode_ok (by decide)).2.2
  refine ⟨by decide, rfl, hpush, ?_⟩
  rintro ⟨bytes, hbytes, hmsg⟩
  rw [hpush] at hbytes
  rw [← CoapBuffer.push_inj _ hbytes] at hmsg
  revert hmsg
  decide

end IotConnect.Coap
