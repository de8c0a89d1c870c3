import IotConnect.Coap.Packet

/-! # The codec shared by CoAP over UDP and over TCP (`coap_codec_comm.c`)

Builders append to a buffer and return the packet they describe on the way; what they leave behind
when they fail is part of the result, since the TCP encoder runs them once and ignores their codes.
Parsers walk over a received message with a position. -/
namespace IotConnect.Coap
open Memory
set_option autoImplicit false

/-! ## Building -/

abbrev Built := IotcRet × CoapPacket × CoapBuffer

def Built.andThen (r : Built) (f : CoapPacket → CoapBuffer → Built) : Built :=
  if r.1 = .ok then f r.2.1 r.2.2 else r

theorem Built.andThen_of_ok {r : Built} (h : r.1 = .ok) (f : CoapPacket → CoapBuffer → Built) :
    r.andThen f = f r.2.1 r.2.2 := if_pos h

theorem Built.andThen_ok_iff {r : Built} {f : CoapPacket → CoapBuffer → Built} :
    (r.andThen f).1 = .ok ↔ r.1 = .ok ∧ (f r.2.1 r.2.2).1 = .ok := by
  unfold Built.andThen
  by_cases h : r.1 = .ok
  · rw [if_pos h]
    exact ⟨fun hf => ⟨h, hf⟩, fun hf => hf.2⟩
  · rw [if_neg h]
    exact ⟨fun hr => absurd hr h, fun hr => absurd hr.1 h⟩

def coapCommBuildToken (build : CoapBuildPacket) (pkt : CoapPacket) (buf : CoapBuffer) : Built :=
  let tkl := build.header.tkl.val
  if ¬ buf.len ≤ buf.size then (.errParamInvalid, pkt, buf)
  else if tkl = 0 then (.ok, pkt, buf)
  else if tkl > buf.room then (.coapBufferShort, pkt, buf)
  else
    match memcpyS pkt.token 0 coapTokenMaxLen (load build.token 0 tkl) with
    | none => (.errSecurecMemcpy, pkt, buf)
    | some token =>
      match memcpyS buf.buffer buf.len buf.room (load build.token 0 tkl) with
      | none => (.errSecurecMemcpy, { pkt with token := token }, buf)
      | some buffer => (.ok, { pkt with token := token }, { buf with buffer := buffer, len := buf.len + tkl })

def coapCommGetExtensionBase (value : ℕ) : ℕ × ℕ :=
  if value < coapDeltaUint8AddNum then (value, 0)
  else if value ≤ coapDeltaUint16AddNum then (coapExtendDeltaValueUint8, 1)
  else if value ≤ coapDeltaUint32AddNum then (coapExtendDeltaValueUint16, 2)
  else (coapExtendDeltaValueUint32, 4)

def coapCommBuildExtension (buf : CoapBuffer) (value : ℕ) : IotcRet × CoapBuffer :=
  if value < coapDeltaUint8AddNum then (.ok, buf)
  else if value ≤ coapDeltaUint16AddNum then
    if buf.room < 1 then (.coapBufferShort, buf)
    else (.ok, buf.push [(value - coapDeltaUint8AddNum).toUInt8])
  else if value ≤ coapDeltaUint32AddNum then
    if buf.room < 2 then (.coapBufferShort, buf)
    else
      let ext := value - coapDeltaUint16AddNum
      (.ok, buf.push [(ext / 2 ^ 8).toUInt8, ext.toUInt8])
  else if buf.room < 4 then (.coapBufferShort, buf)
  else
    let ext := value - coapDeltaUint32AddNum
    (.ok, buf.push [(ext / 2 ^ 24).toUInt8, (ext / 2 ^ 16).toUInt8, (ext / 2 ^ 8).toUInt8, ext.toUInt8])

/-- `CoapCommBuildOptionData`; `dst` is the option of the packet. -/
def coapCommBuildOptionData (buf : CoapBuffer) (src : BuildOption) (dst : CoapOption) :
    IotcRet × CoapOption × CoapBuffer :=
  if src.value.len = 0 then (.ok, dst, buf)
  else
    match src.value with
    | .null n => (.ok, dst, buf.push (List.replicate n 0))
    | .bytes l =>
      match memcpyS buf.buffer buf.len buf.room l with
      | none => (.errSecurecMemcpy, dst, buf)
      | some buffer =>
        (.ok, { dst with value := ⟨some buf.len, l.length⟩ }, { buf with buffer := buffer, len := buf.len + l.length })

/-- The distance to the option before this one, as a `uint16_t`. -/
def optionDelta (prev : UInt16) (curOption : BuildOption) : ℕ := (curOption.option - prev).toNat

/-- `CoapCommBuildSingleOption`, given the number of the option before this one, `0` for the first. -/
def coapCommBuildSingleOption (prev : UInt16) (curOption : BuildOption) (index : ℕ) (pkt : CoapPacket)
    (buf : CoapBuffer) : Built :=
  let delta := optionDelta prev curOption
  let (deltaBase, deltaExtLen) := coapCommGetExtensionBase delta
  let (lenBase, lenExtLen) := coapCommGetExtensionBase curOption.value.len
  if deltaBase = coapExtendDeltaValueUint32 ∨ lenBase = coapExtendDeltaValueUint32 then (.coapUseReserved, pkt, buf)
  else if 1 + deltaExtLen + lenExtLen + curOption.value.len > buf.room then (.coapBufferShort, pkt, buf)
  else
    let buf := buf.push [(deltaBase * 16 + lenBase).toUInt8]
    match coapCommBuildExtension buf delta with
    | (.ok, buf) =>
      match coapCommBuildExtension buf curOption.value.len with
      | (.ok, buf) =>
        match coapCommBuildOptionData buf curOption (pkt.options index) with
        | (.ok, dst, buf) =>
          (.ok, { pkt with
            options := Function.update pkt.options index { dst with option := curOption.option } }, buf)
        | (ret, _, buf) => (ret, pkt, buf)
      | (ret, buf) => (ret, pkt, buf)
    | (ret, buf) => (ret, pkt, buf)

/-- The second loop of `CoapCommBuildOption`. -/
def buildOptionLoop (prev : UInt16) (index : ℕ) (pkt : CoapPacket) (buf : CoapBuffer) : List BuildOption → Built
  | [] => (.ok, pkt, buf)
  | o :: os => (coapCommBuildSingleOption prev o index pkt buf).andThen fun pkt buf =>
    buildOptionLoop o.option (index + 1) pkt buf os

/-- The first loop of `CoapCommBuildOption`: the option numbers do not decrease. -/
def optionsAscend (option : UInt16) : List BuildOption → Bool
  | [] => true
  | o :: os => !(o.option < option) && optionsAscend o.option os

def coapCommBuildOption (build : CoapBuildPacket) (pkt : CoapPacket) (buf : CoapBuffer) : Built :=
  if ¬ buf.len ≤ buf.size then (.errParamInvalid, pkt, buf)
  else if build.options.length = 0 then (.ok, pkt, buf.push [0xFF])
  else if build.options.length > coapOptionMaxNum then (.coapInvalidBuild, pkt, buf.push [0xFF])
  else if optionsAscend 0 build.options = false then (.coapOptionOrder, pkt, buf.push [0xFF])
  else
    let (ret, pkt, buf) := buildOptionLoop 0 0 pkt buf build.options
    if ret ≠ .ok then (ret, pkt, buf.push [0xFF])
    else (.ok, { pkt with opNum := build.options.length }, buf.push [0xFF])

def buildPayloadByCallback (f : CoapBuffer → Int × List UInt8) (pkt : CoapPacket) (buf : CoapBuffer) : Built :=
  let (ret, l) := f buf
  if ret ≠ IotcRet.ok.code ∨ l.length = 0 then (.coapBuildFunc, pkt, buf.push l)
  else (.ok, { pkt with payload := { pkt.payload with len := l.length } }, buf.push l)

def buildPayloadByData (payload : BuildData) (pkt : CoapPacket) (buf : CoapBuffer) : Built :=
  match payload with
  | .null _ => (.coapInvalidBuild, pkt, buf)
  | .bytes l =>
    if l.length = 0 then (.coapInvalidBuild, pkt, buf)
    else if buf.room < l.length then (.coapBufferShort, pkt, buf)
    else
      match memcpyS buf.buffer buf.len buf.room l with
      | none => (.errSecurecMemcpy, pkt, buf)
      | some buffer =>
        (.ok, { pkt with payload := { pkt.payload with len := l.length } },
          { buf with buffer := buffer, len := buf.len + l.length })

def coapCommBuildPayload (build : CoapBuildPacket) (pkt : CoapPacket) (buf : CoapBuffer) : Built :=
  if ¬ buf.len ≤ buf.size then (.errParamInvalid, pkt, buf)
  else if build.payload.isNone ∧ build.buildFunc.isNone then (.ok, pkt, buf)
  else if buf.size = buf.len then (.coapBufferShort, pkt, buf)
  else
    let pkt := { pkt with payload := { pkt.payload with data := some buf.len } }
    match build.buildFunc, build.payload with
    | some f, _ => buildPayloadByCallback f pkt buf
    | none, some payload => buildPayloadByData payload pkt buf
    | none, none => (.ok, pkt, buf)

/-! ## Parsing -/

def coapCommParseExtension (value : ℕ) (raw : CoapRaw) (pos : ℕ) : Except IotcRet (ℕ × ℕ) :=
  if value = coapExtendDeltaValueUint8 then
    if raw.len < pos + 1 then .error .coapExtShort
    else .ok ((raw.data pos).toNat + coapDeltaUint8AddNum, pos + 1)
  else if value = coapExtendDeltaValueUint16 then
    if raw.len < pos + 2 then .error .coapExtShort
    else .ok ((raw.data pos).toNat * 2 ^ 8 + (raw.data (pos + 1)).toNat + coapDeltaUint16AddNum, pos + 2)
  else if value = coapExtendDeltaValueUint32 then
    if raw.len < pos + 4 then .error .coapExtShort
    else
      let add := (raw.data pos).toNat * 2 ^ 24 + (raw.data (pos + 1)).toNat * 2 ^ 16 +
        (raw.data (pos + 2)).toNat * 2 ^ 8 + (raw.data (pos + 3)).toNat
      if add > 2 ^ 32 - 1 - coapDeltaUint32AddNum then .error .coapExtLong
      else .ok (add + coapDeltaUint32AddNum, pos + 4)
  else .ok (value, pos)

/-- `CoapCommParseSingleOption`: the option, whose number is the new `*delta`, and the position after
it. The code's test `curLen + *pos > UINT32_MAX` is never true of a `uint32_t`. -/
def coapCommParseSingleOption (delta : UInt16) (raw : CoapRaw) (pos : ℕ) : Except IotcRet (CoapOption × ℕ) :=
  if raw.len < pos + coapOptionMinLen then .error .coapOptionShort
  else
    let curDelta := (raw.data pos).toNat / 16
    let curLen := (raw.data pos).toNat % 16
    if curDelta = coapExtendDeltaValueUint32 ∨ curLen = coapExtendDeltaValueUint32 then .error .coapUseReserved
    else
      match coapCommParseExtension curDelta raw (pos + 1) with
      | .error ret => .error ret
      | .ok (curDelta, pos) =>
        if curDelta > 2 ^ 16 - 1 - delta.toNat then .error .coapOptionBig
        else
          match coapCommParseExtension curLen raw pos with
          | .error ret => .error ret
          | .ok (curLen, pos) =>
            if raw.len < pos + curLen then .error .coapOptionLong
            else .ok (⟨delta + curDelta.toUInt16, ⟨some pos, curLen⟩⟩, pos + curLen)

/-- The loop of `CoapCommParseOptions`, with room for `k` more options. -/
def parseOptionsLoop (raw : CoapRaw) : (k opNum : ℕ) → (delta : UInt16) → (options : ℕ → CoapOption) →
    (pos : ℕ) → Except IotcRet (ℕ × (ℕ → CoapOption) × ℕ)
  | 0, opNum, _, options, pos =>
    if pos < raw.len ∧ raw.data pos ≠ 0xFF then .error .coapOptionNum else .ok (opNum, options, pos)
  | k + 1, opNum, delta, options, pos =>
    if pos < raw.len ∧ raw.data pos ≠ 0xFF then
      match coapCommParseSingleOption delta raw pos with
      | .error ret => .error ret
      | .ok (o, pos) => parseOptionsLoop raw k (opNum + 1) o.option (Function.update options opNum o) pos
    else .ok (opNum, options, pos)

def coapCommParseOptions (pkt : CoapPacket) (raw : CoapRaw) (pos : ℕ) : Except IotcRet (CoapPacket × ℕ) :=
  if ¬ (raw.len ≠ 0 ∧ pos ≤ raw.len) then .error .errParamInvalid
  else
    match parseOptionsLoop raw coapOptionMaxNum 0 0 pkt.options pos with
    | .error ret => .error ret
    | .ok (opNum, options, pos) => .ok ({ pkt with opNum := opNum, options := options }, pos)

def coapCommParseToken (pkt : CoapPacket) (raw : CoapRaw) (pos : ℕ) : Except IotcRet (CoapPacket × ℕ) :=
  let tkl := pkt.header.tkl.val
  if ¬ (raw.len ≠ 0 ∧ pos ≤ raw.len) then .error .errParamInvalid
  else if tkl = 0 then .ok (pkt, pos)
  else if raw.len < pos + tkl then .error .coapUdpTokenShort
  else
    match memcpyS pkt.token 0 coapTokenMaxLen (load raw.data pos tkl) with
    | none => .error .errSecurecMemcpy
    | some token => .ok ({ pkt with token := token }, pos + tkl)

def coapCommParsePayload (pkt : CoapPacket) (raw : CoapRaw) (pos : ℕ) : Except IotcRet (CoapPacket × ℕ) :=
  if ¬ (raw.len ≠ 0 ∧ pos ≤ raw.len) then .error .errParamInvalid
  else if raw.len ≤ pos ∨ raw.data pos ≠ 0xFF then .ok ({ pkt with payload := ⟨none, 0⟩ }, pos)
  else .ok ({ pkt with payload := ⟨some (pos + 1), raw.len - (pos + 1)⟩ }, pos + 1)

/-- The token, the options and the payload, in the order in which both decoders parse them. -/
def parseBody (pkt : CoapPacket) (raw : CoapRaw) (pos : ℕ) : Except IotcRet CoapPacket :=
  match coapCommParseToken pkt raw pos with
  | .error ret => .error ret
  | .ok (pkt, pos) =>
    match coapCommParseOptions pkt raw pos with
    | .error ret => .error ret
    | .ok (pkt, pos) =>
      match coapCommParsePayload pkt raw pos with
      | .error ret => .error ret
      | .ok (pkt, _) => .ok pkt

end IotConnect.Coap
