import IotConnect.Coap.Body

/-! # CoAP over TCP (`coap_codec_tcp_v1.c`) and its encryption (`m2m_cloud_psk.c`)

The header has a length field instead of a message id. Once the cloud session has a pre-shared key,
the payload is replaced by its ciphertext and a HMAC over everything before it. The cipher, the key
derivation and the HMAC are parameters, and so is the outcome of each allocation. -/
namespace IotConnect.Coap
open Memory
set_option autoImplicit false

def coapTcpV1CoapHeaderLen : ℕ := 2
def coapTcpV1RawHeaderLen : ℕ := 2
def coapTcpDataEncryptPadding : ℕ := 16
def coapTcpHeaderMinLen : ℕ := 32
def sessHmacLen : ℕ := 32
def saltLen : ℕ := 16

/-! ## The session -/

abbrev Hmac := { l : List UInt8 // l.length = sessHmacLen }

structure PskInfo where
  pskFinish : Bool
  encrypt : Bool
  key : List UInt8
  salt : List UInt8

/-- The adapters the session calls, with what is known of the sizes: AES-CBC with PKCS7 pads to the
next multiple of 16, and a plaintext fits the buffer of the ciphertext's size it is written to. -/
structure PskCrypto where
  aesCbcEncrypt : (key iv data : List UInt8) → Except IotcRet (List UInt8)
  aesCbcDecrypt : (key iv data : List UInt8) → Except IotcRet (List UInt8)
  pbkdf2Hmac : (password salt : List UInt8) → Except IotcRet (List UInt8)
  hmacCalc : (key data : List UInt8) → Except IotcRet Hmac
  /-- Whether the allocations in `PskEncryptData`, `PskDecryptData` and for `hmacData` succeed. -/
  mallocEnc : Bool
  mallocDec : Bool
  mallocHmac : Bool
  encrypt_length : ∀ key iv data c, aesCbcEncrypt key iv data = .ok c → c.length = 16 * (data.length / 16 + 1)
  decrypt_length : ∀ key iv data p, aesCbcDecrypt key iv data = .ok p → p.length ≤ data.length

structure M2mCloudContext where
  pskInfo : PskInfo
  crypto : PskCrypto

/-- The test both `CoapTcpEncrypt` and `CoapTcpDecrypt` start with. -/
def M2mCloudContext.pskActive (ctx : M2mCloudContext) : Prop :=
  ctx.pskInfo.pskFinish = true ∧ ctx.pskInfo.encrypt = false

instance (ctx : M2mCloudContext) : Decidable ctx.pskActive := inferInstanceAs (Decidable (_ ∧ _))

def pskEncryptData (ctx : M2mCloudContext) (data : List UInt8) : Except IotcRet (List UInt8) :=
  if ctx.pskInfo.pskFinish = false ∨ data.length = 0 then .error .errParamInvalid
  else if ctx.crypto.mallocEnc = false then .error .memErrMalloc
  else ctx.crypto.aesCbcEncrypt (ctx.pskInfo.key.take 16) ((ctx.pskInfo.key.drop 16).take 16) data

def pskDecryptData (ctx : M2mCloudContext) (data : List UInt8) : Except IotcRet (List UInt8) :=
  if ctx.pskInfo.pskFinish = false ∨ data.length = 0 then .error .errParamInvalid
  else if ctx.crypto.mallocDec = false then .error .memErrMalloc
  else ctx.crypto.aesCbcDecrypt (ctx.pskInfo.key.take 16) ((ctx.pskInfo.key.drop 16).take 16) data

def stationSessCalHmac (ctx : M2mCloudContext) (data : List UInt8) : Except IotcRet Hmac :=
  if data.length = 0 then .error .errParamInvalid
  else
    match ctx.crypto.pbkdf2Hmac (ctx.pskInfo.key.take saltLen) (ctx.pskInfo.salt.take saltLen) with
    | .error ret => .error ret
    | .ok hmacKey => ctx.crypto.hmacCalc hmacKey data

/-- The buffer a caller of `StationSessCalHmac` has cleared before the call, after it. -/
def hmacBuffer (r : Except IotcRet Hmac) : List UInt8 :=
  match r with
  | .ok mac => mac.val
  | .error _ => List.replicate sessHmacLen 0

def PskCrypto.padOnly (mallocs : Bool) : PskCrypto where
  aesCbcEncrypt := fun _ _ data => .ok (data ++ List.replicate (16 - data.length % 16) 0)
  aesCbcDecrypt := fun _ _ data => .ok (data.take (data.length - 1))
  pbkdf2Hmac := fun password _ => .ok password
  hmacCalc := fun _ _ => .ok ⟨List.replicate 32 1, rfl⟩
  mallocEnc := mallocs
  mallocDec := mallocs
  mallocHmac := mallocs
  encrypt_length := by
    rintro key iv data c ⟨⟩
    rw [List.length_append, List.length_replicate]
    omega
  decrypt_length := by
    rintro key iv data p ⟨⟩
    rw [List.length_take]
    omega

/-! ## Decoding -/

/-- The length field: what `exlen` is set to from the half byte `len` and the bytes at `pos`, and the
position after it. The code reads `a << 8 | b + 269 + 2`, which is `a << 8 | (b + 269 + 2)`. -/
def parseExlen (len : ℕ) (raw : CoapRaw) (pos : ℕ) : ℕ × ℕ :=
  let byte i := (raw.data (pos + i)).toNat
  if len ≤ coapExtendDeltaValueUint then (len, pos)
  else if len = coapExtendDeltaValueUint8 then (byte 0 + coapDeltaUint8AddNum + 1, pos + 1)
  else if len = coapExtendDeltaValueUint16 then (byte 0 <<< 8 ||| (byte 1 + coapDeltaUint16AddNum + 2), pos + 2)
  else (byte 0 <<< 24 ||| byte 1 <<< 16 ||| byte 2 <<< 8 ||| (byte 3 + coapDeltaUint32AddNum + 4), pos + 4)

def coapTcpV1ParseHeader (pkt : CoapPacket) (raw : CoapRaw) (pos : ℕ) : Except IotcRet (CoapPacket × ℕ) :=
  if raw.len < pos + coapTcpV1CoapHeaderLen + coapTcpV1RawHeaderLen then .error .coapTcpV1HeaderShort
  else
    let len := Fin.ofNat 16 ((raw.data pos).toNat / 16)
    let tkl := Fin.ofNat 16 (raw.data pos).toNat
    let (exlen, pos) := parseExlen len.val raw (pos + 1)
    let exlen := (exlen + tkl.val + coapTcpV1CoapHeaderLen) % 2 ^ 32
    .ok ({ pkt with
      header := { pkt.header with tkl := tkl, code := raw.data pos }
      tcpheader := ⟨len, exlen⟩ }, pos + 1)

def coapTcpDecrypt (ctx : M2mCloudContext) (pkt : CoapPacket) (raw : CoapRaw) : IotcRet × CoapPacket × CoapRaw :=
  if ctx.pskActive then
    let exlen := pkt.tcpheader.exlen
    if exlen < coapTcpHeaderMinLen then (.error, pkt, raw)
    else
      let hmacRecv := load raw.data (exlen - sessHmacLen) sessHmacLen
      if ctx.crypto.mallocHmac = false then (.memErrMalloc, pkt, raw)
      else
        let hmacKey := hmacBuffer (stationSessCalHmac ctx (load raw.data 0 (exlen - sessHmacLen)))
        if hmacKey ≠ hmacRecv then (.error, pkt, raw)
        else
          let cipher := raw.read { pkt.payload with len := u32Sub pkt.payload.len sessHmacLen }
          match pskDecryptData ctx cipher with
          | .error _ => (.sessCodeErr, pkt, raw)
          | .ok decData =>
            if decData.length = 0 then (.sessCodeErr, pkt, raw)
            else
              (.ok, { pkt with payload := { pkt.payload with len := decData.length } },
                { raw with data := store raw.data (pkt.payload.data.getD 0) decData })
  else (.ok, pkt, raw)

/-- `CoapTcpV1Decode` up to the decryption. -/
def tcpV1Parse (pkt : CoapPacket) (raw : CoapRaw) : Except IotcRet CoapPacket :=
  if raw.len = 0 then .error .errParamInvalid
  else
    match coapTcpV1ParseHeader pkt raw 0 with
    | .error ret => .error ret
    | .ok (pkt, pos) => parseBody pkt raw pos

def coapTcpV1Decode (ctx : M2mCloudContext) (pkt : CoapPacket) (raw : CoapRaw) : Except IotcRet (CoapPacket × CoapRaw) :=
  match tcpV1Parse pkt raw with
  | .error ret => .error ret
  | .ok pkt => .ok (coapTcpDecrypt ctx pkt raw).2

/-! ## Encoding -/

def tcpLengthField (exlen : ℕ) : ℕ × List UInt8 :=
  if exlen < coapDeltaUint8AddNum then (exlen, [])
  else if exlen ≤ coapDeltaUint16AddNum then (coapExtendDeltaValueUint8, [(exlen - coapDeltaUint8AddNum).toUInt8])
  else if exlen ≤ coapDeltaUint32AddNum then
    let ext := exlen - coapDeltaUint16AddNum
    (coapExtendDeltaValueUint16, [(ext / 2 ^ 8).toUInt8, ext.toUInt8])
  else
    let ext := exlen - coapDeltaUint32AddNum
    (coapExtendDeltaValueUint32,
      [(ext / 2 ^ 24).toUInt8, (ext / 2 ^ 16).toUInt8, (ext / 2 ^ 8).toUInt8, ext.toUInt8])

def coapTcpV1BuildHeader (build : CoapBuildPacket) (pkt : CoapPacket) (buf : CoapBuffer) : Built :=
  if coapTcpV1CoapHeaderLen + coapTcpV1RawHeaderLen > buf.room then (.coapBufferShort, pkt, buf)
  else if build.header.code = 0 ∧ (build.header.tkl ≠ 0 ∨ build.payload.isSome ∨ build.buildFunc.isSome) then
    (.coapInvalidBuild, pkt, buf)
  else
    let header := { build.header with msgId := 0, ver := 0 }
    let (len, ext) := tcpLengthField pkt.tcpheader.exlen
    let buffer := store buf.buffer 1 ext
    let buffer := store buffer 0 [(len * 16 + header.tkl.val).toUInt8]
    let buffer := store buffer (1 + ext.length) [header.code]
    (.ok, { pkt with header := header }, { buf with buffer := buffer, len := 1 + ext.length + 1 })

def coapUtilsReplacePayload (pkt : CoapPacket) (buf : CoapBuffer) (payload : List UInt8) : Built :=
  if ¬ (buf.size ≠ 0 ∧ payload.length ≠ 0) then (.errParamInvalid, pkt, buf)
  else
    match pkt.payload.data with
    | none => (.coapPayloadInvalid, pkt, buf)
    | some off =>
      if off > buf.size then (.coapPayloadInvalid, pkt, buf)
      else if buf.size - off ≤ payload.length then (.coapBufferShort, pkt, buf)
      else
        match memcpyS buf.buffer off (buf.size - off) payload with
        | none => (.errSecurecMemcpy, pkt, buf)
        | some buffer =>
          (.ok, { pkt with payload := { pkt.payload with len := payload.length } },
            { buf with buffer := store buffer (off + payload.length) [0], len := off + payload.length })

theorem coapUtilsReplacePayload_ok {pkt pkt' : CoapPacket} {buf buf' : CoapBuffer} {payload : List UInt8}
    (h : coapUtilsReplacePayload pkt buf payload = (.ok, pkt', buf')) :
    CoapRaw.read ⟨buf'.buffer, buf'.len⟩ pkt'.payload = payload ∧ pkt'.payload.data.isSome = true ∧
      pkt'.payload.len ≠ 0 ∧ buf'.len ≠ 0 ∧ buf'.len ≤ buf'.size := by
  unfold coapUtilsReplacePayload at h
  by_cases hparam : ¬ (buf.size ≠ 0 ∧ payload.length ≠ 0)
  · rw [if_pos hparam] at h
    cases h
  rw [if_neg hparam] at h
  cases hdata : pkt.payload.data with
  | none =>
    rw [hdata] at h
    cases h
  | some off =>
    rw [hdata] at h
    dsimp only at h
    split_ifs at h with hoff hshort
    · cases h
    · cases h
    cases hcopy : memcpyS buf.buffer off (buf.size - off) payload with
    | none =>
      rw [hcopy] at h
      cases h
    | some buffer =>
      rw [hcopy] at h
      obtain ⟨-, rfl⟩ := memcpyS_eq_some hcopy
      have hpos : payload.length ≠ 0 := (not_not.mp hparam).2
      cases h
      refine ⟨?_, by rw [hdata]; rfl, hpos, ?_, ?_⟩
      · rw [CoapRaw.read, hdata]
        dsimp only
        rw [load_store_before _ _ _ _ _ (Nat.le_refl _), load_store_self]
      · dsimp only
        omega
      · dsimp only
        omega

def coapTcpEncrypt (ctx : M2mCloudContext) (build : CoapBuildPacket) (pkt : CoapPacket) (buf : CoapBuffer) : Built :=
  if ctx.pskActive then
    match pskEncryptData ctx (CoapRaw.read ⟨buf.buffer, buf.len⟩ pkt.payload) with
    | .error _ => (.sessCodeErr, pkt, buf)
    | .ok encData =>
      (((coapTcpV1BuildHeader build pkt buf).andThen (coapCommBuildToken build)).andThen
        (coapCommBuildOption build)).andThen fun pkt buf =>
          if ctx.crypto.mallocHmac = false then (.memErrMalloc, pkt, buf)
          else
            let hmacKey := hmacBuffer (stationSessCalHmac ctx (load buf.buffer 0 buf.len ++ encData))
            let (_, pkt, buf) := coapUtilsReplacePayload pkt buf encData
            (.ok, pkt, buf.push hmacKey)
  else (.ok, pkt, buf)

/-- `pkt->tcpheader.exlen` from the dry run of the option and payload builders. -/
def tcpDryRun (ctx : M2mCloudContext) (build : CoapBuildPacket) (pkt : CoapPacket) (buf : CoapBuffer) :
    CoapPacket × CoapBuffer :=
  let (_, pkt, buf') := coapCommBuildOption build pkt buf
  let (_, pkt, buf') := coapCommBuildPayload build pkt buf'
  let exlen := buf'.len + if ctx.pskActive then
    (coapTcpDataEncryptPadding - pkt.payload.len % coapTcpDataEncryptPadding) + sessHmacLen else 0
  ({ pkt with tcpheader := { pkt.tcpheader with exlen := exlen } }, { buf' with len := buf.len })

/-- `CoapTcpV1Encode` up to the encryption. -/
def tcpV1EncodePlain (ctx : M2mCloudContext) (build : CoapBuildPacket) (pkt : CoapPacket) (buf : CoapBuffer) : Built :=
  if buf.size = 0 then (.errParamInvalid, pkt, buf)
  else
    let (pkt, buf) := tcpDryRun ctx build pkt buf
    (((coapTcpV1BuildHeader build pkt buf).andThen (coapCommBuildToken build)).andThen
      (coapCommBuildOption build)).andThen (coapCommBuildPayload build)

def coapTcpV1Encode (ctx : M2mCloudContext) (build : CoapBuildPacket) (pkt : CoapPacket) (buf : CoapBuffer) : Built :=
  (tcpV1EncodePlain ctx build pkt buf).andThen fun pkt buf => (.ok, (coapTcpEncrypt ctx build pkt buf).2)

/-! ## Framing -/

/-- `CoapTcpV1GetRemainSize`: how many bytes are still to come when `curLen` bytes of `packet` are there. -/
def coapTcpV1GetRemainSize (packet : ℕ → UInt8) (curLen : ℕ) : Except IotcErr ℕ :=
  if curLen < coapTcpV1RawHeaderLen then .ok (coapTcpV1RawHeaderLen - curLen)
  else
    let bodyLen := (packet 0).toNat * 256 + (packet 1).toNat
    let curBodyLen := curLen - coapTcpV1RawHeaderLen
    if bodyLen = curBodyLen then .ok 0
    else if bodyLen > curBodyLen then .ok (bodyLen - curBodyLen)
    else .error ⟨.errParamInvalid, IotcRet.errParamInvalid_ne_ok⟩

end IotConnect.Coap
