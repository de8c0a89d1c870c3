import IotConnect.Coap.TcpV1
import IotConnect.Foundations.Logged

/-! # The bounds of the decoder of CoAP over TCP

The decoder of `coap_codec_tcp_v1.c` once more, with every index of the message it reads, every length it
computes by subtraction and every byte it writes to the decrypted payload. Positions wrap like the
`uint32_t` they are. The option parser checks each access; the header parser asks for four bytes and may
read six, and `CoapTcpDecrypt` trusts the length field of the header. -/
namespace IotConnect.Coap
open Memory Foundations
set_option autoImplicit false

inductive Access
  /-- `n` bytes of the message from `off` on are read. -/
  | read (off n : ℕ)
  /-- The bytes of the message are overwritten. -/
  | overwrite (off n : ℕ)
  /-- `a - b` is passed on as a length. -/
  | length (a b : ℕ)
  /-- `n` bytes from `off` on are written to an allocation of `size` bytes. -/
  | write (off n size : ℕ)

/-- The access is inside a message of `len` bytes, or inside its allocation; the length does not wrap. -/
def Access.Inside (len : ℕ) : Access → Prop
  | read off n => n = 0 ∨ off + n ≤ len
  | overwrite off n => off + n ≤ len
  | length a b => b ≤ a
  | write off n size => off + n ≤ size

instance (len : ℕ) : DecidablePred (Access.Inside len)
  | .read _ _ => inferInstanceAs (Decidable (_ ∨ _))
  | .overwrite _ _ => inferInstanceAs (Decidable (_ ≤ _))
  | .length _ _ => inferInstanceAs (Decidable (_ ≤ _))
  | .write _ _ _ => inferInstanceAs (Decidable (_ ≤ _))

abbrev Checked (β : Type) := Logged Access IotcRet β

open Logged

/-! ## The decoder -/

/-- `a + b` of two `uint32_t`. -/
def u32Plus (a b : ℕ) : ℕ := (a + b) % 2 ^ 32

/-- How many extension bytes a length of `len` has in the header. -/
def exlenBytes (len : ℕ) : ℕ :=
  if len ≤ coapExtendDeltaValueUint then 0
  else if len = coapExtendDeltaValueUint8 then 1
  else if len = coapExtendDeltaValueUint16 then 2
  else 4

def headerAccesses (raw : CoapRaw) : List Access :=
  if raw.len < coapTcpV1CoapHeaderLen + coapTcpV1RawHeaderLen then []
  else [.read 0 1, .read 1 (exlenBytes ((raw.data 0).toNat / 16)), .read (1 + exlenBytes ((raw.data 0).toNat / 16)) 1]

/-- The four bytes at `pos`, highest first. -/
def ntohl (raw : CoapRaw) (pos : ℕ) : ℕ :=
  (raw.data pos).toNat * 2 ^ 24 + (raw.data (pos + 1)).toNat * 2 ^ 16 + (raw.data (pos + 2)).toNat * 2 ^ 8 +
    (raw.data (pos + 3)).toNat

def checkedExtension (value : ℕ) (raw : CoapRaw) (pos : ℕ) : Checked (ℕ × ℕ) :=
  if value = coapExtendDeltaValueUint8 then
    if raw.len < u32Plus pos 1 then fail .coapExtShort
    else do
      note [.read pos 1]
      pure ((raw.data pos).toNat + coapDeltaUint8AddNum, u32Plus pos 1)
  else if value = coapExtendDeltaValueUint16 then
    if raw.len < u32Plus pos 2 then fail .coapExtShort
    else do
      note [.read pos 2]
      pure ((raw.data pos).toNat * 2 ^ 8 + (raw.data (pos + 1)).toNat + coapDeltaUint16AddNum, u32Plus pos 2)
  else if value = coapExtendDeltaValueUint32 then
    if raw.len < u32Plus pos 4 then fail .coapExtShort
    else do
      note [.read pos 4]
      if ntohl raw pos > 2 ^ 32 - 1 - coapDeltaUint32AddNum then fail .coapExtLong
      else pure (ntohl raw pos + coapDeltaUint32AddNum, u32Plus pos 4)
  else pure (value, pos)

def checkedSingleOption (delta : UInt16) (raw : CoapRaw) (pos : ℕ) : Checked (CoapOption × ℕ) :=
  if raw.len < u32Plus pos coapOptionMinLen then fail .coapOptionShort
  else do
    note [.read pos 1]
    let curDelta := (raw.data pos).toNat / 16
    let curLen := (raw.data pos).toNat % 16
    if curDelta = coapExtendDeltaValueUint32 ∨ curLen = coapExtendDeltaValueUint32 then fail .coapUseReserved
    else do
      let (curDelta, pos) ← checkedExtension curDelta raw (u32Plus pos 1)
      if curDelta > 2 ^ 16 - 1 - delta.toNat then fail .coapOptionBig
      else do
        let (curLen, pos) ← checkedExtension curLen raw pos
        if raw.len < u32Plus pos curLen then fail .coapOptionLong
        else pure (⟨delta + curDelta.toUInt16, ⟨some pos, curLen⟩⟩, u32Plus pos curLen)

/-- The byte is read where the position is inside the message, and is not the payload marker. -/
def atOption (raw : CoapRaw) (pos : ℕ) : Checked Bool :=
  if pos < raw.len then do
    note [.read pos 1]
    pure (raw.data pos != 0xFF)
  else pure false

def checkedOptionsLoop (raw : CoapRaw) : (k opNum : ℕ) → (delta : UInt16) → (options : ℕ → CoapOption) →
    (pos : ℕ) → Checked (ℕ × (ℕ → CoapOption) × ℕ)
  | 0, opNum, _, options, pos => do
    if ← atOption raw pos then fail .coapOptionNum else pure (opNum, options, pos)
  | k + 1, opNum, delta, options, pos => do
    if ← atOption raw pos then do
      let (o, pos) ← checkedSingleOption delta raw pos
      checkedOptionsLoop raw k (opNum + 1) o.option (Function.update options opNum o) pos
    else pure (opNum, options, pos)

def checkedOptions (pkt : CoapPacket) (raw : CoapRaw) (pos : ℕ) : Checked (CoapPacket × ℕ) :=
  if ¬ (raw.len ≠ 0 ∧ pos ≤ raw.len) then fail .errParamInvalid
  else do
    let (opNum, options, pos) ← checkedOptionsLoop raw coapOptionMaxNum 0 0 pkt.options pos
    pure ({ pkt with opNum := opNum, options := options }, pos)

/-- The token is read if it is inside the message and fits the packet. -/
def tokenAccesses (pkt : CoapPacket) (raw : CoapRaw) (pos : ℕ) : List Access :=
  if pos ≤ raw.len ∧ pos + pkt.header.tkl.val ≤ raw.len ∧ pkt.header.tkl.val ≤ coapTokenMaxLen then
    [.read pos pkt.header.tkl.val]
  else []

def payloadAccesses (raw : CoapRaw) (pos : ℕ) : List Access := if pos < raw.len then [.read pos 1] else []

/-- `PskDecryptData`: the output is cleared, filled and terminated before the return code is looked at;
a cipher that fails leaves `outDataLen` as it was. -/
def pskDecryptAccesses (ctx : M2mCloudContext) (raw : CoapRaw) (data : Option ℕ) (dataLen : ℕ) : List Access :=
  match data with
  | none => []
  | some off =>
    if ctx.pskInfo.pskFinish = false ∨ dataLen = 0 then []
    else if ctx.crypto.mallocDec = false then []
    else [.write 0 dataLen dataLen, .read off dataLen] ++
      match pskDecryptData ctx (load raw.data off dataLen) with
      | .error _ => [.write dataLen 1 dataLen]
      | .ok plain => [.write 0 plain.length dataLen, .write plain.length 1 dataLen, .overwrite off plain.length]

def decryptAccesses (ctx : M2mCloudContext) (pkt : CoapPacket) (raw : CoapRaw) : List Access :=
  if ctx.pskActive then
    let exlen := pkt.tcpheader.exlen
    if exlen < coapTcpHeaderMinLen then []
    else
      [.length exlen sessHmacLen, .read (exlen - sessHmacLen) sessHmacLen] ++
        if ctx.crypto.mallocHmac = false then []
        else
          [.read 0 (exlen - sessHmacLen)] ++
            if hmacBuffer (stationSessCalHmac ctx (load raw.data 0 (exlen - sessHmacLen))) ≠
                load raw.data (exlen - sessHmacLen) sessHmacLen then []
            else
              [.length pkt.payload.len sessHmacLen] ++
                pskDecryptAccesses ctx raw pkt.payload.data (u32Sub pkt.payload.len sessHmacLen)
  else []

def checkedBody (pkt : CoapPacket) (raw : CoapRaw) (pos : ℕ) : Checked CoapPacket := do
  let (pkt, pos) ← ⟨tokenAccesses pkt raw pos, coapCommParseToken pkt raw pos⟩
  let (pkt, pos) ← checkedOptions pkt raw pos
  let (pkt, _) ← ⟨payloadAccesses raw pos, coapCommParsePayload pkt raw pos⟩
  pure pkt

/-- `CoapTcpV1Decode` up to the decryption. -/
def checkedParse (pkt : CoapPacket) (raw : CoapRaw) : Checked CoapPacket :=
  if raw.len = 0 then fail .errParamInvalid
  else do
    let (pkt, pos) ← ⟨headerAccesses raw, coapTcpV1ParseHeader pkt raw 0⟩
    checkedBody pkt raw pos

def checkedDecode (ctx : M2mCloudContext) (pkt : CoapPacket) (raw : CoapRaw) : Checked (CoapPacket × CoapRaw) := do
  let pkt ← checkedParse pkt raw
  note (decryptAccesses ctx pkt raw)
  pure (coapTcpDecrypt ctx pkt raw).2

/-! ## The checked decoder is the decoder -/

section Refinement
variable {raw : CoapRaw} {pos : ℕ}

theorem u32Plus_of_lt {a b : ℕ} (h : a + b < 2 ^ 32) : u32Plus a b = a + b := Nat.mod_eq_of_lt h

theorem checkedExtension_result {value : ℕ} (hvalue : value ≤ 14) (h : pos + 2 < 2 ^ 32) :
    (checkedExtension value raw pos).result = coapCommParseExtension value raw pos := by
  have h15 : ¬ value = coapExtendDeltaValueUint32 := by
    unfold coapExtendDeltaValueUint32
    omega
  unfold checkedExtension coapCommParseExtension
  rw [if_neg h15, if_neg h15, u32Plus_of_lt (by omega), u32Plus_of_lt (by omega)]
  split
  · split <;> rfl
  split
  · split <;> rfl
  · rfl

theorem parseExtension_bound {value v pos' : ℕ} (hvalue : value ≤ 14)
    (h : coapCommParseExtension value raw pos = .ok (v, pos')) :
    v ≤ 65804 ∧ pos ≤ pos' ∧ pos' ≤ pos + 2 ∧ (pos ≤ raw.len → pos' ≤ raw.len) := by
  have h0 := (raw.data pos).toNat_lt
  have h1 := (raw.data (pos + 1)).toNat_lt
  unfold coapCommParseExtension coapExtendDeltaValueUint8 coapExtendDeltaValueUint16 coapExtendDeltaValueUint32
    coapDeltaUint8AddNum coapDeltaUint16AddNum at h
  split at h
  · split at h <;> cases h
    omega
  split at h
  · split at h <;> cases h
    omega
  rw [if_neg (by omega)] at h
  cases h
  omega

theorem checkedSingleOption_result (delta : UInt16) (hpos : pos ≤ raw.len) (hlen : raw.len + 65804 < 2 ^ 32) :
    (checkedSingleOption delta raw pos).result = coapCommParseSingleOption delta raw pos := by
  have hbyte := (raw.data pos).toNat_lt
  unfold checkedSingleOption coapCommParseSingleOption coapOptionMinLen coapExtendDeltaValueUint32
  rw [u32Plus_of_lt (by omega)]
  split
  · rfl
  rw [result_note_bind]
  dsimp only
  split
  · rfl
  rw [result_bind, checkedExtension_result (by omega) (by omega)]
  cases hd : coapCommParseExtension ((raw.data pos).toNat / 16) raw (pos + 1) with
  | error ret => rfl
  | ok r =>
    obtain ⟨-, -, -, hstep⟩ := parseExtension_bound (by omega) hd
    dsimp only [Except.bind]
    split
    · rfl
    rw [result_bind, checkedExtension_result (by omega) (by omega)]
    cases hl : coapCommParseExtension ((raw.data pos).toNat % 16) raw r.2 with
    | error ret => rfl
    | ok r' =>
      obtain ⟨hv, -, -, hstep'⟩ := parseExtension_bound (by omega) hl
      dsimp only [Except.bind]
      rw [u32Plus_of_lt (by omega)]
      split <;> rfl

theorem parseSingleOption_end {delta : UInt16} {o : CoapOption} {pos' : ℕ}
    (h : coapCommParseSingleOption delta raw pos = .ok (o, pos')) : pos' ≤ raw.len := by
  unfold coapCommParseSingleOption at h
  split at h
  · cases h
  dsimp only at h
  split at h
  · cases h
  split at h
  · cases h
  split at h
  · cases h
  split at h
  · cases h
  split at h
  · cases h
  · cases h
    omega

theorem atOption_result (raw : CoapRaw) (pos : ℕ) :
    (atOption raw pos).result = .ok (decide (pos < raw.len ∧ raw.data pos ≠ 0xFF)) := by
  unfold atOption
  by_cases hpos : pos < raw.len
  · rw [if_pos hpos, result_note_bind]
    show Except.ok _ = Except.ok _
    by_cases hbyte : raw.data pos = 0xFF <;> simp [hpos, hbyte]
  · rw [if_neg hpos]
    show Except.ok _ = Except.ok _
    simp [hpos]

theorem checkedOptionsLoop_result (hlen : raw.len + 65804 < 2 ^ 32) (k opNum : ℕ) (delta : UInt16)
    (options : ℕ → CoapOption) (hpos : pos ≤ raw.len) : (checkedOptionsLoop raw k opNum delta options pos).result =
      parseOptionsLoop raw k opNum delta options pos := by
  induction k generalizing opNum delta options pos with
  | zero =>
    rw [checkedOptionsLoop, result_bind, atOption_result, parseOptionsLoop]
    by_cases h : pos < raw.len ∧ raw.data pos ≠ 0xFF
    · rw [decide_eq_true h, if_pos h]
      rfl
    · rw [decide_eq_false h, if_neg h]
      rfl
  | succ k ih =>
    rw [checkedOptionsLoop, result_bind, atOption_result, parseOptionsLoop]
    by_cases h : pos < raw.len ∧ raw.data pos ≠ 0xFF
    · rw [decide_eq_true h, if_pos h]
      show (_ >>= _ : Checked _).result = _
      rw [result_bind, checkedSingleOption_result delta hpos hlen]
      cases hs : coapCommParseSingleOption delta raw pos with
      | error ret => rfl
      | ok r => exact ih _ _ _ (parseSingleOption_end hs)
    · rw [decide_eq_false h, if_neg h]
      rfl

theorem checkedBody_result (pkt : CoapPacket) (pos : ℕ) (hlen : raw.len + 65804 < 2 ^ 32) :
    (checkedBody pkt raw pos).result = parseBody pkt raw pos := by
  unfold checkedBody parseBody
  rw [result_bind]
  dsimp only
  cases coapCommParseToken pkt raw pos with
  | error ret => rfl
  | ok r =>
    dsimp only [Except.bind]
    rw [result_bind]
    have hopts : (checkedOptions r.1 raw r.2).result = coapCommParseOptions r.1 raw r.2 := by
      unfold checkedOptions coapCommParseOptions
      split
      · rfl
      rename_i hpos
      rw [result_bind, checkedOptionsLoop_result hlen _ _ _ _ (not_not.mp hpos).2]
      cases parseOptionsLoop raw coapOptionMaxNum 0 0 r.1.options r.2 <;> rfl
    rw [hopts]
    cases coapCommParseOptions r.1 raw r.2 with
    | error ret => rfl
    | ok r =>
      dsimp only [Except.bind]
      rw [result_bind]
      dsimp only
      cases coapCommParsePayload r.1 raw r.2 <;> rfl

theorem checkedDecode_result (ctx : M2mCloudContext) (pkt : CoapPacket) (hlen : raw.len + 65804 < 2 ^ 32) :
    (checkedDecode ctx pkt raw).result = coapTcpV1Decode ctx pkt raw := by
  have hparse : (checkedParse pkt raw).result = tcpV1Parse pkt raw := by
    unfold checkedParse tcpV1Parse
    split
    · rfl
    rw [result_bind]
    dsimp only
    cases coapTcpV1ParseHeader pkt raw 0 with
    | error ret => rfl
    | ok r => exact checkedBody_result r.1 r.2 hlen
  unfold checkedDecode coapTcpV1Decode
  rw [result_bind, hparse]
  cases tcpV1Parse pkt raw <;> rfl

end Refinement

/-! ## What stays inside -/

section Inside
variable {raw : CoapRaw} {pos : ℕ}

theorem read_inside {len off n : ℕ} (h : off + n ≤ len) : ∀ a ∈ [Access.read off n], a.Inside len := by
  intro a ha
  rw [List.mem_singleton] at ha
  rw [ha]
  exact .inr h

theorem checkedExtension_inside {value : ℕ} (hvalue : value ≤ 14) (hpos : pos ≤ raw.len) (hlen : raw.len + 2 < 2 ^ 32) :
    (checkedExtension value raw pos).Meets (Access.Inside raw.len) fun r => r.2 ≤ raw.len := by
  have h15 : ¬ value = coapExtendDeltaValueUint32 := by
    unfold coapExtendDeltaValueUint32
    omega
  unfold checkedExtension
  rw [if_neg h15, u32Plus_of_lt (by omega), u32Plus_of_lt (by omega)]
  split
  · split
    · exact .fail _
    · exact .note (read_inside (by omega)) (.pure (by dsimp only; omega))
  split
  · split
    · exact .fail _
    · exact .note (read_inside (by omega)) (.pure (by dsimp only; omega))
  · exact .pure hpos

theorem checkedSingleOption_inside (delta : UInt16) (hpos : pos < raw.len) (hlen : raw.len + 2 < 2 ^ 32) :
    (checkedSingleOption delta raw pos).Meets (Access.Inside raw.len) fun r => r.2 ≤ raw.len := by
  have hbyte := (raw.data pos).toNat_lt
  unfold checkedSingleOption coapOptionMinLen coapExtendDeltaValueUint32
  rw [u32Plus_of_lt (by omega)]
  split
  · exact .fail _
  refine .note (read_inside (by omega)) ?_
  dsimp only
  split
  · exact .fail _
  refine (checkedExtension_inside (by omega) (by omega) hlen).bind fun r hr => ?_
  split
  · exact .fail _
  refine (checkedExtension_inside (by omega) hr hlen).bind fun r' _ => ?_
  split
  · exact .fail _
  · exact .pure (by dsimp only; omega)

theorem atOption_inside (raw : CoapRaw) (pos : ℕ) :
    (atOption raw pos).Meets (Access.Inside raw.len) fun b => b = true → pos < raw.len := by
  unfold atOption
  split
  · rename_i hpos
    exact .note (read_inside hpos) (.pure fun _ => hpos)
  · exact .pure fun h => by cases h

theorem checkedOptionsLoop_inside (hlen : raw.len + 2 < 2 ^ 32) (k opNum : ℕ) (delta : UInt16)
    (options : ℕ → CoapOption) :
    (checkedOptionsLoop raw k opNum delta options pos).Meets (Access.Inside raw.len) fun _ => True := by
  induction k generalizing opNum delta options pos with
  | zero =>
    rw [checkedOptionsLoop]
    refine (atOption_inside raw pos).bind fun b _ => ?_
    split
    · exact .fail _
    · exact .pure trivial
  | succ k ih =>
    rw [checkedOptionsLoop]
    refine (atOption_inside raw pos).bind fun b hb => ?_
    split
    · rename_i htrue
      exact (checkedSingleOption_inside delta (hb htrue) hlen).bind fun r _ => ih _ _ _
    · exact .pure trivial

theorem checkedOptions_inside (hlen : raw.len + 2 < 2 ^ 32) (pkt : CoapPacket) :
    (checkedOptions pkt raw pos).All (Access.Inside raw.len) := by
  unfold checkedOptions
  split
  · exact all_fail _
  · exact ((checkedOptionsLoop_inside hlen _ _ _ _).bind (R := fun _ => True) fun _ _ => .pure trivial).1

theorem headerAccesses_inside_iff (raw : CoapRaw) : (∀ a ∈ headerAccesses raw, a.Inside raw.len) ↔
    (4 ≤ raw.len → (raw.data 0).toNat / 16 = 15 → 6 ≤ raw.len) := by
  have hbyte := (raw.data 0).toNat_lt
  unfold headerAccesses coapTcpV1CoapHeaderLen coapTcpV1RawHeaderLen exlenBytes coapExtendDeltaValueUint
    coapExtendDeltaValueUint8 coapExtendDeltaValueUint16
  by_cases hshort : raw.len < 4
  · rw [if_pos hshort]
    exact ⟨fun _ h => absurd h (by omega), fun _ a ha => by cases ha⟩
  rw [if_neg hshort]
  simp only [List.forall_mem_cons, List.not_mem_nil, false_imp_iff, implies_true, and_true, Access.Inside]
  constructor
  · intro h _ h15
    rw [if_neg (by omega), if_neg (by omega), if_neg (by omega)] at h
    omega
  · intro h
    by_cases h15 : (raw.data 0).toNat / 16 = 15
    · have := h (by omega) h15
      split_ifs <;> omega
    · split_ifs <;> omega

theorem tokenAccesses_inside (pkt : CoapPacket) (raw : CoapRaw) (pos : ℕ) :
    ∀ a ∈ tokenAccesses pkt raw pos, a.Inside raw.len := by
  unfold tokenAccesses
  split
  · rename_i h
    exact read_inside h.2.1
  · exact fun a ha => by cases ha

theorem payloadAccesses_inside (raw : CoapRaw) (pos : ℕ) : ∀ a ∈ payloadAccesses raw pos, a.Inside raw.len := by
  unfold payloadAccesses
  split
  · rename_i h
    exact read_inside h
  · exact fun a ha => by cases ha

theorem checkedBody_inside (hlen : raw.len + 2 < 2 ^ 32) (pkt : CoapPacket) :
    (checkedBody pkt raw pos).All (Access.Inside raw.len) := by
  unfold checkedBody
  refine (all_bind _ _).mpr ⟨tokenAccesses_inside _ _ _, fun r _ => ?_⟩
  refine (all_bind _ _).mpr ⟨checkedOptions_inside hlen _, fun r' _ => ?_⟩
  exact (all_bind _ _).mpr ⟨payloadAccesses_inside _ _, fun _ _ => all_pure _⟩

end Inside

/-! ## Decryption -/

/-- What keeps `CoapTcpDecrypt` inside a frame: the length field does not lie behind the frame's end; and
once the HMAC is right the payload holds a HMAC, and its ciphertext decrypts to something shorter. -/
def DecryptInside (ctx : M2mCloudContext) (raw : CoapRaw) (p : CoapPacket) : Prop :=
  coapTcpHeaderMinLen ≤ p.tcpheader.exlen → p.tcpheader.exlen ≤ raw.len ∧
    (ctx.crypto.mallocHmac = true →
      hmacBuffer (stationSessCalHmac ctx (load raw.data 0 (p.tcpheader.exlen - sessHmacLen))) =
        load raw.data (p.tcpheader.exlen - sessHmacLen) sessHmacLen →
      sessHmacLen ≤ p.payload.len ∧ (sessHmacLen < p.payload.len → ctx.crypto.mallocDec = true →
        ∃ plain, pskDecryptData ctx (raw.read { p.payload with len := p.payload.len - sessHmacLen }) = .ok plain ∧
          plain.length < p.payload.len - sessHmacLen))

section Decrypt
variable {ctx : M2mCloudContext} {raw : CoapRaw} {p : CoapPacket}

/-- The payload of a parsed frame is null, or reaches to the end of the message. -/
def PayloadInside (raw : CoapRaw) (p : CoapPacket) : Prop :=
  p.payload = ⟨none, 0⟩ ∨ ∃ off, p.payload = ⟨some off, raw.len - off⟩ ∧ off ≤ raw.len

theorem pskDecryptAccesses_inside_iff (hfinish : ctx.pskInfo.pskFinish = true) (hp : PayloadInside raw p)
    (hlen : sessHmacLen ≤ p.payload.len) :
    (∀ a ∈ pskDecryptAccesses ctx raw p.payload.data (p.payload.len - sessHmacLen), a.Inside raw.len) ↔
      (sessHmacLen < p.payload.len → ctx.crypto.mallocDec = true →
        ∃ plain, pskDecryptData ctx (raw.read { p.payload with len := p.payload.len - sessHmacLen }) = .ok plain ∧
          plain.length < p.payload.len - sessHmacLen) := by
  unfold sessHmacLen at *
  rcases hp with hnull | ⟨off, hpay, hoff⟩
  · rw [hnull] at hlen
    cases hlen
  rw [hpay] at hlen ⊢
  dsimp only at hlen ⊢
  unfold pskDecryptAccesses
  dsimp only
  by_cases hempty : raw.len - off - 32 = 0
  · rw [if_pos (.inr hempty)]
    exact ⟨fun _ h => absurd h (by omega), fun _ a ha => by cases ha⟩
  rw [if_neg (by rintro (hf | hz) <;> [simp [hfinish] at hf; exact hempty hz])]
  by_cases hmalloc : ctx.crypto.mallocDec = false
  · rw [if_pos hmalloc]
    exact ⟨fun _ _ h => by simp [hmalloc] at h, fun _ a ha => by cases ha⟩
  rw [if_neg hmalloc]
  have hread : raw.read ⟨some off, raw.len - off - 32⟩ = load raw.data off (raw.len - off - 32) := rfl
  rw [hread]
  cases hdec : pskDecryptData ctx (load raw.data off (raw.len - off - 32)) with
  | error ret =>
    constructor
    · intro h
      have hend : raw.len - off - 32 + 1 ≤ raw.len - off - 32 :=
        h (.write (raw.len - off - 32) 1 (raw.len - off - 32)) (by simp)
      omega
    · intro h
      obtain ⟨plain, hplain, -⟩ := h (by omega) (by simpa using hmalloc)
      cases hplain
  | ok plain =>
    constructor
    · intro h _ _
      have := h (.write plain.length 1 (raw.len - off - 32)) (by simp)
      exact ⟨plain, rfl, this⟩
    · intro h
      obtain ⟨plain', hplain, hshort⟩ := h (by omega) (by simpa using hmalloc)
      cases hplain
      simp only [List.cons_append, List.nil_append, List.forall_mem_cons, List.not_mem_nil, false_imp_iff,
        implies_true, and_true, Access.Inside]
      omega

theorem decryptAccesses_inside_iff (hp : PayloadInside raw p) :
    (∀ a ∈ decryptAccesses ctx p raw, a.Inside raw.len) ↔ (ctx.pskActive → DecryptInside ctx raw p) := by
  unfold decryptAccesses DecryptInside
  by_cases hpsk : ctx.pskActive
  swap
  · rw [if_neg hpsk]
    exact ⟨fun _ h => absurd h hpsk, fun _ a ha => by cases ha⟩
  rw [if_pos hpsk]
  simp only [hpsk, true_imp_iff]
  by_cases hmin : p.tcpheader.exlen < coapTcpHeaderMinLen
  · rw [if_pos hmin]
    exact ⟨fun _ h => absurd h (by omega), fun _ a ha => by cases ha⟩
  rw [if_neg hmin]
  have hmin' : coapTcpHeaderMinLen ≤ p.tcpheader.exlen := Nat.le_of_not_lt hmin
  simp only [hmin', true_imp_iff]
  -- the HMAC of the message is compared with one computed over all before it
  have hexlen : (Access.length p.tcpheader.exlen sessHmacLen).Inside raw.len := hmin'
  have hhmac : (Access.read (p.tcpheader.exlen - sessHmacLen) sessHmacLen).Inside raw.len ↔
      p.tcpheader.exlen ≤ raw.len := by
    unfold Access.Inside sessHmacLen
    unfold coapTcpHeaderMinLen at hmin'
    omega
  simp only [List.cons_append, List.nil_append, List.forall_mem_cons, hexlen, hhmac, true_and]
  refine and_congr_right fun hin => ?_
  by_cases hmalloc : ctx.crypto.mallocHmac = false
  · rw [if_pos hmalloc]
    exact ⟨fun _ h => by simp [hmalloc] at h, fun _ a ha => by cases ha⟩
  rw [if_neg hmalloc]
  rw [Bool.not_eq_false] at hmalloc
  have hbefore : (Access.read 0 (p.tcpheader.exlen - sessHmacLen)).Inside raw.len := .inr (by omega)
  simp only [hmalloc, true_imp_iff, List.forall_mem_cons, hbefore, true_and]
  by_cases hcmp : hmacBuffer (stationSessCalHmac ctx (load raw.data 0 (p.tcpheader.exlen - sessHmacLen))) =
      load raw.data (p.tcpheader.exlen - sessHmacLen) sessHmacLen
  swap
  · rw [if_pos hcmp]
    exact ⟨fun _ h => absurd h hcmp, fun _ a ha => by cases ha⟩
  rw [if_neg (not_not.mpr hcmp)]
  simp only [hcmp, true_imp_iff, List.forall_mem_cons]
  refine and_congr_right fun hpl => ?_
  have hpl : sessHmacLen ≤ p.payload.len := hpl
  rw [u32Sub_of_le hpl]
  exact pskDecryptAccesses_inside_iff hpsk.1 hp hpl

end Decrypt

/-! ## The decoder -/

/-- The frames the decoder stays inside of. -/
structure FrameInside (ctx : M2mCloudContext) (pkt : CoapPacket) (raw : CoapRaw) : Prop where
  header : 4 ≤ raw.len → (raw.data 0).toNat / 16 = 15 → 6 ≤ raw.len
  decrypt : ctx.pskActive → ∀ p, (checkedParse pkt raw).result = .ok p → DecryptInside ctx raw p

section Decode
variable {pkt p : CoapPacket} {raw : CoapRaw}

theorem parsePayload_inside {pos : ℕ} {r : CoapPacket × ℕ} (h : coapCommParsePayload pkt raw pos = .ok r) :
    PayloadInside raw r.1 := by
  unfold coapCommParsePayload at h
  split at h
  · cases h
  split at h
  · cases h
    exact .inl rfl
  · rename_i hpos
    cases h
    exact .inr ⟨pos + 1, rfl, by omega⟩

theorem checkedParse_payload (h : (checkedParse pkt raw).result = .ok p) : PayloadInside raw p := by
  unfold checkedParse at h
  split at h
  · cases h
  obtain ⟨r1, -, h⟩ := result_bind_eq_ok h
  unfold checkedBody at h
  obtain ⟨r2, -, h⟩ := result_bind_eq_ok h
  obtain ⟨r3, -, h⟩ := result_bind_eq_ok h
  obtain ⟨r4, hpay, h⟩ := result_bind_eq_ok h
  cases h
  exact parsePayload_inside hpay

theorem checkedParse_inside_iff (hlen : raw.len + 2 < 2 ^ 32) : (checkedParse pkt raw).All (Access.Inside raw.len) ↔
    (4 ≤ raw.len → (raw.data 0).toNat / 16 = 15 → 6 ≤ raw.len) := by
  unfold checkedParse
  by_cases hzero : raw.len = 0
  · rw [if_pos hzero]
    exact ⟨fun _ h => by omega, fun _ => all_fail _⟩
  rw [if_neg hzero, all_bind]
  refine Iff.trans (and_iff_left ?_) (headerAccesses_inside_iff raw)
  exact fun r _ => checkedBody_inside hlen r.1

end Decode

/-- **Every index the decoder reads lies in the frame, no length it passes on has wrapped and every byte of
the plaintext lies in its allocation, exactly for these frames.** At the two longest lengths of a `uint32_t` the
position can wrap behind an extension. -/
theorem checkedDecode_inside_iff (ctx : M2mCloudContext) (pkt : CoapPacket) (raw : CoapRaw)
    (hlen : raw.len + 2 < 2 ^ 32) :
    (checkedDecode ctx pkt raw).All (Access.Inside raw.len) ↔ FrameInside ctx pkt raw := by
  unfold checkedDecode
  rw [all_bind, checkedParse_inside_iff hlen]
  have hdec : (∀ p, (checkedParse pkt raw).result = .ok p →
      (do note (decryptAccesses ctx p raw); pure (coapTcpDecrypt ctx p raw).2 : Checked _).All
        (Access.Inside raw.len)) ↔
      (ctx.pskActive → ∀ p, (checkedParse pkt raw).result = .ok p → DecryptInside ctx raw p) := by
    simp only [all_note_bind, all_pure, and_true]
    constructor
    · exact fun h hpsk p hp => (decryptAccesses_inside_iff (checkedParse_payload hp)).mp (h p hp) hpsk
    · exact fun h p hp => (decryptAccesses_inside_iff (checkedParse_payload hp)).mpr fun hpsk => h hpsk p hp
  rw [hdec]
  exact ⟨fun h => ⟨h.1, h.2⟩, fun h => ⟨h.header, h.decrypt⟩⟩

/-- A frame with four extension bytes, without a key. -/
theorem checkedDecode_inside_long :
    (checkedDecode ⟨⟨false, false, [], []⟩, PskCrypto.padOnly true⟩ CoapPacket.init
      ⟨ofList [0xF0, 0, 0, 0, 0, 1] 0, 6⟩).All (Access.Inside 6) :=
  (checkedDecode_inside_iff _ _ ⟨ofList [0xF0, 0, 0, 0, 0, 1] 0, 6⟩ (by decide)).mpr
    ⟨fun _ _ => Nat.le_refl 6, fun h => by cases h.1⟩

/-- Four bytes whose first announces four extension bytes, where the code is read behind the frame; and, with
a key, four bytes whose length field puts the HMAC 180 bytes behind the frame. -/
theorem checkedDecode_reads_behind :
    ¬ (checkedDecode ⟨⟨false, false, [], []⟩, PskCrypto.padOnly true⟩ CoapPacket.init
      ⟨ofList [0xF0, 0, 0, 0] 0, 4⟩).All (Access.Inside 4) ∧
    ¬ (checkedDecode ⟨⟨true, false, [], []⟩, PskCrypto.padOnly true⟩ CoapPacket.init
      ⟨ofList [0xD0, 200, 1, 0xFF] 0, 4⟩).All (Access.Inside 4) := by
  decide

end IotConnect.Coap
