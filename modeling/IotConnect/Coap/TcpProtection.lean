import IotConnect.Coap.TcpFrame

/-! # Protection of CoAP over TCP

With a pre-shared key a frame is to carry the ciphertext of its payload and a HMAC over all that comes
before it. Both the encoder and the decoder do the cryptographic part in a function whose return code
they drop, so a frame is protected, and an accepted frame is authentic, exactly when that function
happens to succeed. -/
namespace IotConnect.Coap
open Memory
set_option autoImplicit false

theorem pskEncryptData_length {ctx : M2mCloudContext} {data c : List UInt8} (h : pskEncryptData ctx data = .ok c) :
    c.length = 16 * (data.length / 16 + 1) := by
  unfold pskEncryptData at h
  split at h
  · cases h
  split at h
  · cases h
  exact ctx.crypto.encrypt_length _ _ _ _ h

theorem pskDecryptData_length {ctx : M2mCloudContext} {data p : List UInt8} (h : pskDecryptData ctx data = .ok p) :
    0 < data.length ∧ p.length ≤ data.length := by
  unfold pskDecryptData at h
  split at h
  · cases h
  rename_i hdata
  split at h
  · cases h
  exact ⟨Nat.pos_of_ne_zero fun h0 => hdata (.inr h0), ctx.crypto.decrypt_length _ _ _ _ h⟩

/-! ## Accepted frames -/

/-- The trailing 32 bytes of the message are the HMAC of the bytes before them. -/
def TrailingHmac (ctx : M2mCloudContext) (raw : CoapRaw) : Prop :=
  sessHmacLen ≤ raw.len ∧ ∃ mac, stationSessCalHmac ctx (load raw.data 0 (raw.len - sessHmacLen)) = .ok mac ∧
    load raw.data (raw.len - sessHmacLen) sessHmacLen = mac.val

def cipherPart (raw : CoapRaw) (pkt : CoapPacket) : List UInt8 :=
  raw.read { pkt.payload with len := pkt.payload.len - sessHmacLen }

/-- What an accepted frame should be: `p` is the frame as it was parsed, `pkt'` and `raw'` are what the
decoder returns. -/
structure Authentic (ctx : M2mCloudContext) (raw : CoapRaw) (p pkt' : CoapPacket) (raw' : CoapRaw) : Prop where
  hmac : TrailingHmac ctx raw
  hmac_in_payload : sessHmacLen ≤ p.payload.len
  plain : pskDecryptData ctx (cipherPart raw p) = .ok (raw'.read pkt'.payload)

/-- The frames that are authentic and that `CoapTcpDecrypt` gets through: it looks for the HMAC before
the length of the header, needs memory for a copy, and takes no empty plaintext. -/
structure Decryptable (ctx : M2mCloudContext) (raw : CoapRaw) (p : CoapPacket) : Prop where
  hmac : TrailingHmac ctx raw
  hmac_in_payload : sessHmacLen ≤ p.payload.len
  exlen : coapTcpHeaderMinLen ≤ p.tcpheader.exlen
  malloc : ctx.crypto.mallocHmac = true
  hmac_at_exlen : hmacBuffer (stationSessCalHmac ctx (load raw.data 0 (p.tcpheader.exlen - sessHmacLen))) =
    load raw.data (p.tcpheader.exlen - sessHmacLen) sessHmacLen
  plain : ∃ plain, pskDecryptData ctx (cipherPart raw p) = .ok plain ∧ plain ≠ []

section Decode
variable {ctx : M2mCloudContext} {raw : CoapRaw} {p : CoapPacket}

theorem coapTcpDecrypt_of_decryptable (hpsk : ctx.pskActive) (h : Decryptable ctx raw p) :
    Authentic ctx raw p (coapTcpDecrypt ctx p raw).2.1 (coapTcpDecrypt ctx p raw).2.2 := by
  obtain ⟨plain, hplain, hne⟩ := h.plain
  have hcipher : raw.read { p.payload with len := u32Sub p.payload.len sessHmacLen } = cipherPart raw p := by
    rw [u32Sub_of_le h.hmac_in_payload, cipherPart]
  -- a null payload has no ciphertext
  obtain ⟨off, hoff⟩ : ∃ off, p.payload.data = some off := by
    cases hd : p.payload.data with
    | some off => exact ⟨off, rfl⟩
    | none =>
      have := (pskDecryptData_length hplain).1
      simp [cipherPart, CoapRaw.read, hd] at this
  have hrun : (coapTcpDecrypt ctx p raw).2 = ({ p with payload := { p.payload with len := plain.length } },
      { raw with data := store raw.data off plain }) := by
    unfold coapTcpDecrypt
    rw [if_pos hpsk]
    simp only [hcipher, hplain]
    rw [if_neg (Nat.not_lt.mpr h.exlen), if_neg (by simp [h.malloc]), if_neg (not_not.mpr h.hmac_at_exlen),
      if_neg (fun h0 => hne (List.length_eq_zero_iff.mp h0)), hoff]
    rfl
  refine ⟨h.hmac, h.hmac_in_payload, ?_⟩
  rw [hplain, hrun, CoapRaw.read]
  simp only [hoff, load_store_self]

/-- A frame that is not decrypted is handed out as it came: its payload still has the HMAC at its end,
so it is no plaintext of its ciphertext. -/
theorem not_authentic_of_untouched (h : Authentic ctx raw p p raw) : False := by
  obtain ⟨hpos, hle⟩ := pskDecryptData_length h.plain
  have hlen := h.hmac_in_payload
  unfold cipherPart CoapRaw.read at hpos hle
  unfold sessHmacLen at *
  cases hd : p.payload.data with
  | none => simp [hd] at hpos
  | some off =>
    simp only [hd, load_length] at hpos hle
    omega

theorem decryptable_of_authentic (hpsk : ctx.pskActive)
    (h : Authentic ctx raw p (coapTcpDecrypt ctx p raw).2.1 (coapTcpDecrypt ctx p raw).2.2) :
    Decryptable ctx raw p := by
  have hhmac := h.hmac
  have hin := h.hmac_in_payload
  have hcipher : raw.read { p.payload with len := u32Sub p.payload.len sessHmacLen } = cipherPart raw p := by
    rw [u32Sub_of_le hin, cipherPart]
  have hplain := h.plain
  unfold coapTcpDecrypt at h
  rw [if_pos hpsk] at h
  simp only [hcipher, hplain] at h
  by_cases hex : p.tcpheader.exlen < coapTcpHeaderMinLen
  · rw [if_pos hex] at h
    exact (not_authentic_of_untouched h).elim
  rw [if_neg hex] at h
  by_cases hmalloc : ctx.crypto.mallocHmac = false
  · rw [if_pos hmalloc] at h
    exact (not_authentic_of_untouched h).elim
  rw [if_neg hmalloc] at h
  by_cases hcmp : hmacBuffer (stationSessCalHmac ctx (load raw.data 0 (p.tcpheader.exlen - sessHmacLen))) =
      load raw.data (p.tcpheader.exlen - sessHmacLen) sessHmacLen
  · rw [if_neg (not_not.mpr hcmp)] at h
    refine ⟨hhmac, hin, Nat.le_of_not_lt hex, by simpa using hmalloc, hcmp, _, hplain, fun hnil => ?_⟩
    rw [hnil, if_pos List.length_nil] at h
    exact not_authentic_of_untouched h
  · rw [if_pos hcmp] at h
    exact (not_authentic_of_untouched h).elim

end Decode

/-- **With a key, the decoder accepts only authentic frames exactly when every frame that parses is
one `CoapTcpDecrypt` gets through**: its failures do not make the decoder fail. -/
theorem coapTcpV1Decode_authentic_iff (ctx : M2mCloudContext) (pkt : CoapPacket) (raw : CoapRaw)
    (hfinish : ctx.pskInfo.pskFinish = true) (hencrypt : ctx.pskInfo.encrypt = false) :
    (∀ p pkt' raw', tcpV1Parse pkt raw = .ok p → coapTcpV1Decode ctx pkt raw = .ok (pkt', raw') →
      Authentic ctx raw p pkt' raw') ↔
    ∀ p, tcpV1Parse pkt raw = .ok p → Decryptable ctx raw p := by
  have hpsk : ctx.pskActive := ⟨hfinish, hencrypt⟩
  constructor
  · intro h p hp
    refine decryptable_of_authentic hpsk (h p _ _ hp ?_)
    rw [coapTcpV1Decode, hp]
  · intro h p pkt' raw' hp hdec
    have hauth := coapTcpDecrypt_of_decryptable hpsk (h p hp)
    rw [coapTcpV1Decode, hp] at hdec
    rw [Except.ok.inj hdec] at hauth
    exact hauth

def pskContext : M2mCloudContext := ⟨⟨true, false, List.replicate 32 3, List.replicate 16 4⟩, PskCrypto.padOnly true⟩

def sealedFrame : CoapRaw :=
  ⟨ofList ([210, 38, 1, 0, 1, 177, 7, 255] ++ [8, 9] ++ List.replicate 14 0 ++ List.replicate 32 1) 0, 56⟩

theorem coapTcpV1Decode_sealedFrame : (pskContext.pskInfo.pskFinish = true ∧ pskContext.pskInfo.encrypt = false) ∧
    ∀ p pkt' raw', tcpV1Parse CoapPacket.init sealedFrame = .ok p →
      coapTcpV1Decode pskContext CoapPacket.init sealedFrame = .ok (pkt', raw') →
      Authentic pskContext sealedFrame p pkt' raw' := by
  refine ⟨⟨rfl, rfl⟩,
    (coapTcpV1Decode_authentic_iff pskContext CoapPacket.init sealedFrame rfl rfl).mpr fun p hp => ?_⟩
  have hparse : (tcpV1Parse CoapPacket.init sealedFrame).toOption.map (fun p => (p.tcpheader.exlen, p.payload)) =
      some (56, ⟨some 8, 48⟩) := by
    decide
  simp only [hp, Except.toOption, Option.map_some, Option.some.injEq, Prod.mk.injEq] at hparse
  obtain ⟨hexlen, hpayload⟩ := hparse
  refine ⟨⟨by decide, ⟨List.replicate 32 1, rfl⟩, rfl, by decide⟩, ?_, ?_, rfl, ?_,
    [8, 9] ++ List.replicate 13 0, ?_, by decide⟩
  · rw [hpayload]
    decide
  · rw [hexlen]
    decide
  · rw [hexlen]
    decide
  · rw [cipherPart, hpayload]
    have hcipher : sealedFrame.read ⟨some 8, 48 - sessHmacLen⟩ = [8, 9] ++ List.replicate 14 0 := by
      decide
    rw [hcipher]
    rfl

/-- Four bytes without any HMAC: header, code, marker and the payload `A`, in plain. -/
def plainFrame : CoapRaw := ⟨ofList [0x00, 0x01, 0xFF, 0x41] 0, 4⟩

theorem coapTcpV1Decode_accepts_plainFrame :
    (coapTcpV1Decode pskContext CoapPacket.init plainFrame).toOption.map (fun r => r.2.read r.1.payload) =
      some [0x41] ∧ ¬ TrailingHmac pskContext plainFrame :=
  ⟨by decide, fun h => absurd h.1 (by decide)⟩

/-! ## Sent frames -/

/-- What a sent frame should be: behind the payload marker, at `head`, the ciphertext of the payload
and then the HMAC of all that comes before it, inside the buffer. -/
def Protected (ctx : M2mCloudContext) (head : ℕ) (payload : List UInt8) (out : CoapBuffer) : Prop :=
  ∃ cipher mac, pskEncryptData ctx payload = .ok cipher ∧
    stationSessCalHmac ctx (load out.buffer 0 (head + cipher.length)) = .ok mac ∧
    head ≤ out.len ∧ out.len ≤ out.size ∧ load out.buffer head (out.len - head) = cipher ++ mac.val

/-- The plain frames `CoapTcpEncrypt` gets through: the primitives and the allocation succeed, there
are four bytes left behind the plain frame, since the header is built once more, and 32 behind the ciphertext,
since the HMAC is appended without a look at the size of the buffer. -/
structure Encryptable (ctx : M2mCloudContext) (headBytes payload : List UInt8) (frame : CoapBuffer) : Prop where
  room : 4 ≤ frame.room
  malloc : ctx.crypto.mallocHmac = true
  cipher : ∃ cipher, pskEncryptData ctx payload = .ok cipher ∧
    headBytes.length + cipher.length + sessHmacLen ≤ frame.size ∧
    ∃ mac, stationSessCalHmac ctx (headBytes ++ cipher) = .ok mac

section Encode
variable {ctx : M2mCloudContext} {build : CoapBuildPacket} {pkt : CoapPacket} {buf : CoapBuffer}

/-- The end of `CoapTcpEncrypt`: replacing the payload and appending the HMAC. -/
def sealPayload (pkt : CoapPacket) (buf : CoapBuffer) (cipher hmacKey : List UInt8) : CoapBuffer :=
  (coapUtilsReplacePayload pkt buf cipher).2.2.push hmacKey

variable {head : ℕ} {cipher : List UInt8}

theorem sealPayload_of_room (hmacKey : List UInt8)
    (hoff : pkt.payload.data = some head) (hpos : 0 < cipher.length) (hroom : head + cipher.length < buf.size) :
    sealPayload pkt buf cipher hmacKey = CoapBuffer.push { buf with
      buffer := store (store buf.buffer head cipher) (head + cipher.length) [0]
      len := head + cipher.length } hmacKey := by
  unfold sealPayload coapUtilsReplacePayload
  rw [if_neg (not_not.mpr ⟨by omega, by omega⟩), hoff]
  dsimp only
  rw [if_neg (by omega), if_neg (by omega), memcpyS_of_le _ _ _ _ (by omega) (by omega)]

theorem sealPayload_of_short (hmacKey : List UInt8)
    (hoff : pkt.payload.data = some head) (hshort : ¬ head + cipher.length < buf.size) :
    sealPayload pkt buf cipher hmacKey = buf.push hmacKey := by
  unfold sealPayload coapUtilsReplacePayload
  split
  · rfl
  rw [hoff]
  dsimp only
  split
  · rfl
  rw [if_pos (by omega)]

variable {headBytes : List UInt8}

theorem load_sealed (cipher hmacKey : List UInt8) (m : ℕ → UInt8) (hhead : load m 0 headBytes.length = headBytes) :
    load (store (store (store m headBytes.length cipher) (headBytes.length + cipher.length) [0])
        (headBytes.length + cipher.length) hmacKey) 0 (headBytes.length + cipher.length) = headBytes ++ cipher ∧
      load (store (store (store m headBytes.length cipher) (headBytes.length + cipher.length) [0])
        (headBytes.length + cipher.length) hmacKey) headBytes.length (cipher.length + hmacKey.length) =
          cipher ++ hmacKey := by
  constructor
  · rw [load_store_before _ _ _ _ _ (by omega), load_store_before _ _ _ _ _ (by omega), load_add, Nat.zero_add,
      load_store_before _ _ _ _ _ (by omega), hhead, load_store_self]
  · rw [load_add, load_store_self, load_store_before _ _ _ _ _ (Nat.le_refl _),
      load_store_before _ _ _ _ _ (Nat.le_refl _), load_store_self]

theorem hmacBuffer_length (r : Except IotcRet Hmac) : (hmacBuffer r).length = sessHmacLen := by
  cases r with
  | ok mac => exact mac.property
  | error ret => exact List.length_replicate

theorem coapTcpEncrypt_eq (hpsk : ctx.pskActive)
    (henc : pskEncryptData ctx (CoapRaw.read ⟨buf.buffer, buf.len⟩ pkt.payload) = .ok cipher) :
    (coapTcpEncrypt ctx build pkt buf).2.2 = ((tcpEncodeHead build pkt buf).andThen fun pkt buf =>
      if ctx.crypto.mallocHmac = false then (.memErrMalloc, pkt, buf)
      else (.ok, (coapUtilsReplacePayload pkt buf cipher).2.1, sealPayload pkt buf cipher
        (hmacBuffer (stationSessCalHmac ctx (load buf.buffer 0 buf.len ++ cipher))))).2.2 := by
  unfold coapTcpEncrypt
  rw [if_pos hpsk]
  simp only [henc]
  rfl

theorem tcpEncodeHead_of_full (h : ¬ 4 ≤ buf.room) : tcpEncodeHead build pkt buf = (.coapBufferShort, pkt, buf) := by
  have hheader : coapTcpV1BuildHeader build pkt buf = (.coapBufferShort, pkt, buf) := by
    unfold coapTcpV1BuildHeader coapTcpV1CoapHeaderLen coapTcpV1RawHeaderLen
    rw [if_pos (by omega)]
  unfold tcpEncodeHead Built.andThen
  simp [hheader]

variable {payload : List UInt8}

theorem not_protected_of_short {out : CoapBuffer}
    (henc : pskEncryptData ctx payload = .ok cipher) (hlen : out.len - head < cipher.length + sessHmacLen) :
    ¬ Protected ctx head payload out := by
  rintro ⟨cipher', mac, henc', -, -, -, hload⟩
  rw [henc] at henc'
  cases henc'
  have := congrArg List.length hload
  rw [load_length, List.length_append, mac.property] at this
  omega

def rebuiltHead (headBytes : List UInt8) (buf : CoapBuffer) : CoapBuffer :=
  CoapBuffer.push { buf with len := 0 } headBytes

/-- The buffer after ciphertext, its terminator and HMAC were written behind the head. -/
def sealedBuffer (headBytes cipher mac : List UInt8) (buf : CoapBuffer) : CoapBuffer :=
  CoapBuffer.push { buf with
    buffer := store (store (rebuiltHead headBytes buf).buffer headBytes.length cipher)
      (headBytes.length + cipher.length) [0]
    len := headBytes.length + cipher.length } mac

/-- **What `CoapTcpEncrypt` makes of a plain frame once the payload is encrypted**: it stays plain if there
is no room for another header behind it, is cut at the marker if there is no memory for the HMAC, and
gets the HMAC right behind the marker if the ciphertext does not fit. -/
theorem coapTcpEncrypt_frame (hpsk : ctx.pskActive) {d : CoapPacket × CoapBuffer} {m : CoapBuffer}
    (hfirst : (tcpEncodeHead build d.1 d.2).1 = .ok)
    (hexlen : pkt.tcpheader.exlen = d.1.tcpheader.exlen) (hsize : m.size = d.2.size)
    (hhead : headBytes = tcpHeadBytes build d.1.tcpheader.exlen)
    (hbuf : buf = CoapBuffer.push { m with len := 0 } (headBytes ++ payload))
    (hpay : pkt.payload = ⟨some headBytes.length, payload.length⟩) (henc : pskEncryptData ctx payload = .ok cipher) :
    (coapTcpEncrypt ctx build pkt buf).2.2 =
      if 4 ≤ buf.room then
        if ctx.crypto.mallocHmac = false then rebuiltHead headBytes buf
        else if headBytes.length + cipher.length < buf.size then
          sealedBuffer headBytes cipher (hmacBuffer (stationSessCalHmac ctx (headBytes ++ cipher))) buf
        else (rebuiltHead headBytes buf).push (hmacBuffer (stationSessCalHmac ctx (headBytes ++ cipher)))
      else buf := by
  have hread : CoapRaw.read ⟨buf.buffer, buf.len⟩ pkt.payload = payload := by
    have h := holds_store m.buffer 0 (headBytes ++ payload)
    rw [holds_append, Nat.zero_add] at h
    rw [hpay, CoapRaw.read, hbuf]
    exact h.2
  have hbufsize : buf.size = d.2.size := by
    rw [hbuf, CoapBuffer.push_size, hsize]
  rw [coapTcpEncrypt_eq hpsk (by rw [hread]; exact henc)]
  by_cases hroom : 4 ≤ buf.room
  · have hagain := (tcpEncodeHead_again hfirst hexlen hbufsize).mpr hroom
    obtain ⟨-, -, -, hbuf2, hpay2, -⟩ := tcpEncodeHead_ok hagain
    rw [if_pos hroom, Built.andThen_of_ok hagain]
    rw [hexlen, ← hhead, ← rebuiltHead] at hbuf2
    have hload2 : load (rebuiltHead headBytes buf).buffer 0 (rebuiltHead headBytes buf).len = headBytes := by
      rw [rebuiltHead, CoapBuffer.push_len, Nat.zero_add]
      exact load_store_self buf.buffer 0 headBytes
    have hdata2 : (tcpEncodeHead build pkt buf).2.1.payload.data = some headBytes.length := by
      rw [hpay2, hpay]
    rw [hbuf2]
    generalize (tcpEncodeHead build pkt buf).2.1 = pkt2 at hdata2 ⊢
    rw [hload2]
    by_cases hmalloc : ctx.crypto.mallocHmac = false
    · rw [if_pos hmalloc, if_pos hmalloc]
    rw [if_neg hmalloc, if_neg hmalloc]
    have hcl := pskEncryptData_length henc
    by_cases hfit : headBytes.length + cipher.length < buf.size
    · rw [if_pos hfit]
      exact sealPayload_of_room _ hdata2 (by omega) hfit
    · rw [if_neg hfit]
      exact sealPayload_of_short _ hdata2 hfit
  · rw [if_neg hroom, tcpEncodeHead_of_full hroom, Built.andThen, if_neg (by simp)]

theorem coapTcpEncrypt_protected_iff (hpsk : ctx.pskActive) {d : CoapPacket × CoapBuffer} {m : CoapBuffer}
    (hfirst : (tcpEncodeHead build d.1 d.2).1 = .ok)
    (hexlen : pkt.tcpheader.exlen = d.1.tcpheader.exlen) (hsize : m.size = d.2.size)
    (hhead : headBytes = tcpHeadBytes build d.1.tcpheader.exlen)
    (hbuf : buf = CoapBuffer.push { m with len := 0 } (headBytes ++ payload))
    (hpay : pkt.payload = ⟨some headBytes.length, payload.length⟩) :
    Protected ctx headBytes.length payload (coapTcpEncrypt ctx build pkt buf).2.2 ↔
      Encryptable ctx headBytes payload buf := by
  have hlen : buf.len = headBytes.length + payload.length := by
    rw [hbuf, CoapBuffer.push_len, List.length_append, Nat.zero_add]
  cases henc : pskEncryptData ctx payload with
  | error ret =>
    constructor
    · rintro ⟨cipher, mac, henc', -⟩
      rw [henc] at henc'
      cases henc'
    · rintro ⟨-, -, cipher, henc', -⟩
      rw [henc] at henc'
      cases henc'
  | ok cipher =>
    have hcl := pskEncryptData_length henc
    have hheadlen : (rebuiltHead headBytes buf).len = headBytes.length := by
      rw [rebuiltHead, CoapBuffer.push_len, Nat.zero_add]
    rw [coapTcpEncrypt_frame hpsk hfirst hexlen hsize hhead hbuf hpay henc]
    by_cases hroom : 4 ≤ buf.room
    · rw [if_pos hroom]
      by_cases hmalloc : ctx.crypto.mallocHmac = false
      · rw [if_pos hmalloc]
        refine ⟨fun h => absurd h (not_protected_of_short henc ?_), fun h => by simp [h.malloc] at hmalloc⟩
        rw [hheadlen]
        omega
      rw [if_neg hmalloc]
      by_cases hfit : headBytes.length + cipher.length < buf.size
      · rw [if_pos hfit]
        obtain ⟨hall, htail⟩ := load_sealed cipher (hmacBuffer (stationSessCalHmac ctx (headBytes ++ cipher)))
          (rebuiltHead headBytes buf).buffer (load_store_self buf.buffer 0 headBytes)
        constructor
        · rintro ⟨cipher', mac, henc', hmac, -, hsize, -⟩
          rw [henc] at henc'
          cases henc'
          rw [sealedBuffer, CoapBuffer.push_buffer, hall] at hmac
          rw [sealedBuffer, CoapBuffer.push_len, hmacBuffer_length] at hsize
          exact ⟨hroom, by simpa using hmalloc, cipher, henc, hsize, mac, hmac⟩
        · rintro ⟨-, -, cipher', henc', hsize, mac, hmac⟩
          rw [henc] at henc'
          cases henc'
          refine ⟨cipher, mac, henc, ?_, ?_, ?_, ?_⟩
          · rw [sealedBuffer, CoapBuffer.push_buffer, hall, hmac]
          · rw [sealedBuffer, CoapBuffer.push_len]
            dsimp only
            omega
          · rw [sealedBuffer, CoapBuffer.push_len, hmacBuffer_length]
            exact hsize
          · rw [sealedBuffer, CoapBuffer.push_len, CoapBuffer.push_buffer]
            dsimp only
            rw [Nat.add_assoc, Nat.add_sub_cancel_left, htail, hmac]
            rfl
      · rw [if_neg hfit]
        refine ⟨fun h => absurd h (not_protected_of_short henc ?_), ?_⟩
        · rw [CoapBuffer.push_len, hheadlen, hmacBuffer_length]
          omega
        · rintro ⟨-, -, cipher', henc', hfit', -⟩
          rw [henc] at henc'
          cases henc'
          unfold sessHmacLen at hfit'
          omega
    · rw [if_neg hroom]
      refine ⟨fun h => absurd h (not_protected_of_short henc ?_), fun h => absurd h.room hroom⟩
      rw [hlen]
      omega

end Encode

/-- **With a key, what the encoder returns with `ok` is protected exactly when `CoapTcpEncrypt` gets
through the plain frame**: its failures do not make the encoder fail, and leave the plain frame, a frame
cut at the marker, or a HMAC without ciphertext. -/
theorem coapTcpV1Encode_protected_iff (ctx : M2mCloudContext) (build : CoapBuildPacket) (pkt : CoapPacket)
    (buf : CoapBuffer) (hfinish : ctx.pskInfo.pskFinish = true) (hencrypt : ctx.pskInfo.encrypt = false)
    (hpay : build.payload.isSome ∨ build.buildFunc.isSome) :
    ((coapTcpV1Encode ctx build pkt buf).1 = .ok →
      Protected ctx (tcpHeadBytes build (tcpExlen ctx build pkt buf)).length (tcpPayload ctx build pkt buf)
        (coapTcpV1Encode ctx build pkt buf).2.2) ↔
    ((tcpV1EncodePlain ctx build pkt buf).1 = .ok →
      Encryptable ctx (tcpHeadBytes build (tcpExlen ctx build pkt buf)) (tcpPayload ctx build pkt buf)
        (tcpV1EncodePlain ctx build pkt buf).2.2) := by
  have hpsk : ctx.pskActive := ⟨hfinish, hencrypt⟩
  have hret : (coapTcpV1Encode ctx build pkt buf).1 = .ok ↔ (tcpV1EncodePlain ctx build pkt buf).1 = .ok := by
    rw [coapTcpV1Encode, Built.andThen_ok_iff]
    exact ⟨fun h => h.1, fun h => ⟨h, rfl⟩⟩
  rw [hret]
  refine imp_congr_right fun hok => ?_
  obtain ⟨-, -, hfirst, -, hbuf, hexlen, hpayload⟩ := tcpV1EncodePlain_ok hok
  rw [coapTcpV1Encode, Built.andThen_of_ok hok]
  exact coapTcpEncrypt_protected_iff hpsk hfirst hexlen rfl rfl hbuf (hpayload hpay).2

theorem coapTcpV1Encode_protects_request :
    Protected pskContext
      (tcpHeadBytes (sampleRequest 11 [8, 9]) (tcpExlen pskContext (sampleRequest 11 [8, 9]) CoapPacket.init
        (emptyBuffer 128))).length
      (tcpPayload pskContext (sampleRequest 11 [8, 9]) CoapPacket.init (emptyBuffer 128))
      (coapTcpV1Encode pskContext (sampleRequest 11 [8, 9]) CoapPacket.init (emptyBuffer 128)).2.2 := by
  refine (coapTcpV1Encode_protected_iff pskContext (sampleRequest 11 [8, 9]) CoapPacket.init (emptyBuffer 128)
    rfl rfl (.inl rfl)).mpr (fun _ => ?_) (by decide)
  exact ⟨by decide, rfl, [8, 9] ++ List.replicate 14 0, rfl, by decide, ⟨List.replicate 32 1, rfl⟩, rfl⟩

/-- A buffer with three bytes to spare behind the plain frame: the payload leaves in plain. -/
theorem coapTcpV1Encode_leaks_payload :
    (coapTcpV1Encode pskContext (sampleRequest 11 [8, 9]) CoapPacket.init (emptyBuffer 13)).1 = .ok ∧
      (coapTcpV1Encode pskContext (sampleRequest 11 [8, 9]) CoapPacket.init (emptyBuffer 13)).2.2.len = 10 ∧
      load (coapTcpV1Encode pskContext (sampleRequest 11 [8, 9]) CoapPacket.init (emptyBuffer 13)).2.2.buffer 7 3 =
        [0xFF, 8, 9] := by
  decide

end IotConnect.Coap
