import IotConnect.Coap.Options

/-! # The body of a message

Token, options and payload, which CoAP over UDP and over TCP share: what the builders append and what
the parsers recover from it. -/
namespace IotConnect.Coap
open Memory
set_option autoImplicit false

/-! ## The token -/

variable {build : CoapBuildPacket} {pkt : CoapPacket} {buf : CoapBuffer}

theorem buildToken_ok (h : (coapCommBuildToken build pkt buf).1 = .ok) :
    build.header.tkl.val ≤ 8 ∧ buf.len + build.header.tkl.val ≤ buf.size ∧
      (coapCommBuildToken build pkt buf).2 =
        ({ pkt with token := store pkt.token 0 (load build.token 0 build.header.tkl.val) },
          buf.push (load build.token 0 build.header.tkl.val)) := by
  unfold coapCommBuildToken at h ⊢
  dsimp only at h ⊢
  split at h
  · cases h
  rename_i hle
  rw [if_neg hle]
  rw [not_not] at hle
  split at h
  · rename_i h0
    rw [if_pos h0, h0]
    exact ⟨Nat.zero_le _, hle, by rw [load_zero, store_nil, CoapBuffer.push_nil]⟩
  rename_i h0
  rw [if_neg h0]
  split at h
  · cases h
  rename_i hroom
  rw [if_neg hroom]
  rw [CoapBuffer.room_of_le hle] at hroom h ⊢
  by_cases h8 : build.header.tkl.val ≤ 8
  · rw [memcpyS_of_le _ _ _ _ (by decide) (by rw [load_length]; exact h8)]
    dsimp only
    rw [memcpyS_of_le _ _ _ _ (by omega) (by rw [load_length]; omega)]
    refine ⟨h8, by omega, ?_⟩
    simp only [CoapBuffer.push, load_length]
  · rw [memcpyS, if_neg (by rw [load_length]; exact fun hc => h8 hc.2)] at h
    cases h

theorem buildToken_of_fits (h8 : build.header.tkl.val ≤ 8) (hfit : buf.len + build.header.tkl.val ≤ buf.size) :
    (coapCommBuildToken build pkt buf).1 = .ok := by
  unfold coapCommBuildToken
  dsimp only
  rw [if_neg (by omega)]
  split
  · rfl
  rw [CoapBuffer.room_of_le (by omega), if_neg (by omega),
    memcpyS_of_le _ _ _ _ (by decide) (by rw [load_length]; exact h8)]
  dsimp only
  rw [memcpyS_of_le _ _ _ _ (by omega) (by rw [load_length]; omega)]

/-! ## The payload -/

/-- The bytes of the payload; a callback is asked for them with the buffer before them. -/
def sentPayload (build : CoapBuildPacket) (buf : CoapBuffer) : List UInt8 :=
  match build.buildFunc, build.payload with
  | some f, _ => (f buf).2
  | none, some d => d.sent
  | none, none => []

theorem buildPayloadByCallback_ok {f : CoapBuffer → Int × List UInt8}
    (h : (buildPayloadByCallback f pkt buf).1 = .ok) : 0 < (f buf).2.length ∧
      (buildPayloadByCallback f pkt buf).2 =
        ({ pkt with payload := ⟨pkt.payload.data, (f buf).2.length⟩ }, buf.push (f buf).2) := by
  unfold buildPayloadByCallback at h ⊢
  dsimp only at h ⊢
  split at h
  · cases h
  · rename_i herr
    rw [if_neg herr]
    exact ⟨Nat.pos_of_ne_zero fun h0 => herr (.inr h0), rfl⟩

theorem buildPayloadByData_ok {d : BuildData}
    (h : (buildPayloadByData d pkt buf).1 = .ok) : 0 < d.len ∧ d.len ≤ buf.room ∧
      (buildPayloadByData d pkt buf).2 =
        ({ pkt with payload := ⟨pkt.payload.data, d.sent.length⟩ }, buf.push d.sent) := by
  cases d with
  | null n => cases h
  | bytes l =>
    unfold buildPayloadByData at h ⊢
    dsimp only at h ⊢
    split at h
    · cases h
    split at h
    · cases h
    rename_i h0 hroom
    rw [if_neg h0, if_neg hroom, memcpyS_of_le _ _ _ _ (by omega) (by omega)]
    exact ⟨Nat.pos_of_ne_zero h0, Nat.le_of_not_lt hroom, rfl⟩

theorem buildPayload_size (build : CoapBuildPacket) (pkt : CoapPacket) (buf : CoapBuffer) :
    (coapCommBuildPayload build pkt buf).2.2.size = buf.size := by
  unfold coapCommBuildPayload
  split
  · rfl
  split
  · rfl
  split
  · rfl
  dsimp only
  split
  · unfold buildPayloadByCallback
    dsimp only
    split <;> rfl
  · unfold buildPayloadByData memcpyS
    split
    · rfl
    · split_ifs <;> rfl
  · rfl

theorem buildPayload_ok (h : (coapCommBuildPayload build pkt buf).1 = .ok) :
    buf.len ≤ buf.size ∧ (coapCommBuildPayload build pkt buf).2.2 = buf.push (sentPayload build buf) ∧
      ((build.payload = none ∧ build.buildFunc = none ∧ (coapCommBuildPayload build pkt buf).2.1 = pkt) ∨
        0 < (sentPayload build buf).length ∧ (coapCommBuildPayload build pkt buf).2.1 =
          { pkt with payload := ⟨some buf.len, (sentPayload build buf).length⟩ }) := by
  unfold coapCommBuildPayload at h ⊢
  split at h
  · cases h
  rename_i hle
  rw [if_neg hle]
  refine ⟨not_not.mp hle, ?_⟩
  unfold sentPayload
  split at h
  · rename_i hnone
    rw [Option.isNone_iff_eq_none, Option.isNone_iff_eq_none] at hnone
    rw [hnone.1, hnone.2]
    exact ⟨(CoapBuffer.push_nil buf).symm, .inl ⟨rfl, rfl, rfl⟩⟩
  rename_i hsome
  rw [if_neg hsome]
  split at h
  · cases h
  rename_i hfull
  rw [if_neg hfull]
  cases hf : build.buildFunc with
  | some f =>
    rw [hf] at h
    obtain ⟨hpos, heq⟩ := buildPayloadByCallback_ok h
    dsimp only
    rw [heq]
    exact ⟨rfl, .inr ⟨hpos, rfl⟩⟩
  | none =>
    cases hp : build.payload with
    | none => exact absurd ⟨by rw [hp]; rfl, by rw [hf]; rfl⟩ hsome
    | some d =>
      rw [hf, hp] at h
      obtain ⟨hpos, -, heq⟩ := buildPayloadByData_ok h
      dsimp only
      rw [heq]
      exact ⟨rfl, .inr ⟨by rw [BuildData.sent_length]; exact hpos, rfl⟩⟩

/-- A payload callback that succeeds in a buffer does the same in one with at least as much room. -/
def StableCallback (build : CoapBuildPacket) : Prop :=
  ∀ f, build.buildFunc = some f → ∀ b b' : CoapBuffer, b'.room ≤ b.room → (f b').1 = IotcRet.ok.code → f b = f b'

theorem buildPayload_earlier (pkt : CoapPacket) (buf : CoapBuffer) {pkt' : CoapPacket}
    {buf' : CoapBuffer} (hcb : StableCallback build) (hsize : buf.size = buf'.size) (hlen : buf.len ≤ buf'.len)
    (h : (coapCommBuildPayload build pkt' buf').1 = .ok) :
    (coapCommBuildPayload build pkt buf).1 = .ok ∧ sentPayload build buf = sentPayload build buf' := by
  obtain ⟨hle, -, -⟩ := buildPayload_ok h
  have hroom : buf'.room ≤ buf.room := by
    rw [CoapBuffer.room_of_le hle, CoapBuffer.room_of_le (by omega)]
    omega
  unfold coapCommBuildPayload at h ⊢
  unfold sentPayload
  rw [if_neg (not_not.mpr hle)] at h
  rw [if_neg (by omega)]
  split at h
  · rename_i hnone
    rw [if_pos hnone]
    rw [Option.isNone_iff_eq_none, Option.isNone_iff_eq_none] at hnone
    rw [hnone.1, hnone.2]
    exact ⟨rfl, rfl⟩
  rename_i hsome
  rw [if_neg hsome]
  split at h
  · cases h
  rw [if_neg (by omega)]
  cases hf : build.buildFunc with
  | some f =>
    rw [hf] at h
    dsimp only at h ⊢
    have hcode : (f buf').1 = IotcRet.ok.code := by
      unfold buildPayloadByCallback at h
      dsimp only at h
      split at h
      · cases h
      · rename_i herr
        exact not_not.mp fun hc => herr (.inl hc)
    have hsame := hcb f hf buf buf' hroom hcode
    unfold buildPayloadByCallback at h ⊢
    rw [hsame]
    dsimp only at h ⊢
    split at h
    · cases h
    · rename_i herr
      rw [if_neg herr]
      exact ⟨rfl, rfl⟩
  | none =>
    cases hp : build.payload with
    | none => exact absurd ⟨by rw [hp]; rfl, by rw [hf]; rfl⟩ hsome
    | some d =>
      rw [hf, hp] at h
      dsimp only at h ⊢
      obtain ⟨hpos, hfit, -⟩ := buildPayloadByData_ok h
      refine ⟨?_, rfl⟩
      cases d with
      | null n => cases h
      | bytes l =>
        have hpos : 0 < l.length := hpos
        have hfit : l.length ≤ buf'.room := hfit
        unfold buildPayloadByData
        dsimp only
        rw [if_neg (by omega), if_neg (by omega), memcpyS_of_le _ _ _ _ (by omega) (by omega)]

/-! ## The body of a message -/

def bodyBytes (build : CoapBuildPacket) (payload : List UInt8) : List UInt8 :=
  load build.token 0 build.header.tkl.val ++ (optionsBytes 0 build.options ++ [0xFF] ++ payload)

/-- The packet carries the token, the options and the payload of the build packet. -/
structure SameBody (build : CoapBuildPacket) (sent : List UInt8) (raw : CoapRaw) (pkt : CoapPacket) : Prop where
  token : load pkt.token 0 build.header.tkl.val = load build.token 0 build.header.tkl.val
  opNum : pkt.opNum = build.options.length
  options : Recovered raw 0 build.options pkt.options
  payload : raw.read pkt.payload = sent
  payloadLen : pkt.payload.len = sent.length

section Body
variable {build : CoapBuildPacket} {payload : List UInt8} {raw : CoapRaw} {pkt : CoapPacket} {pos : ℕ}

theorem parseToken_body (htkl : pkt.header.tkl = build.header.tkl) (h8 : build.header.tkl.val ≤ 8)
    (hmem : Holds raw.data pos (load build.token 0 build.header.tkl.val))
    (hfit : pos + build.header.tkl.val < raw.len) :
    ∃ token, coapCommParseToken pkt raw pos = .ok ({ pkt with token := token }, pos + build.header.tkl.val) ∧
      load token 0 build.header.tkl.val = load build.token 0 build.header.tkl.val := by
  unfold Holds at hmem
  rw [load_length] at hmem
  unfold coapCommParseToken
  simp only [htkl]
  rw [if_neg (not_not.mpr ⟨by omega, by omega⟩)]
  by_cases h0 : build.header.tkl.val = 0
  · rw [if_pos h0, h0]
    exact ⟨pkt.token, rfl, rfl⟩
  · rw [if_neg h0, if_neg (by omega), hmem, memcpyS_of_le _ _ _ _ (by decide) (by rw [load_length]; exact h8)]
    refine ⟨_, rfl, ?_⟩
    have h := load_store_self pkt.token 0 (load build.token 0 build.header.tkl.val)
    rwa [load_length] at h

theorem parsePayload_marker (hmem : Holds raw.data pos ([0xFF] ++ payload))
    (hlen : raw.len = pos + 1 + payload.length) :
    coapCommParsePayload pkt raw pos = .ok ({ pkt with payload := ⟨some (pos + 1), payload.length⟩ }, pos + 1) ∧
      raw.read ⟨some (pos + 1), payload.length⟩ = payload := by
  rw [holds_append] at hmem
  have hmark : raw.data pos = 0xFF := hmem.1.getElem 0 Nat.zero_lt_one
  unfold coapCommParsePayload
  rw [if_neg (not_not.mpr ⟨by omega, by omega⟩), if_neg (fun h => h.elim (by omega) (absurd hmark)), hlen,
    Nat.add_sub_cancel_left]
  exact ⟨rfl, hmem.2⟩

theorem parseToken_ok {r : CoapPacket × ℕ} (h : coapCommParseToken pkt raw pos = .ok r) :
    pkt.header.tkl.val ≤ 8 ∧
      r.1 = { pkt with token := store pkt.token 0 (load raw.data pos pkt.header.tkl.val) } := by
  unfold coapCommParseToken at h
  dsimp only at h
  split_ifs at h with hpos h0 hshort
  · cases h
    rw [h0, load_zero, store_nil]
    exact ⟨Nat.zero_le _, rfl⟩
  · cases hcopy : memcpyS pkt.token 0 coapTokenMaxLen (load raw.data pos pkt.header.tkl.val) with
    | none =>
      rw [hcopy] at h
      cases h
    | some token =>
      rw [hcopy] at h
      cases h
      obtain ⟨hle, htoken⟩ := memcpyS_eq_some hcopy
      rw [load_length] at hle
      exact ⟨hle, by rw [htoken]⟩

theorem parseOptions_ok {r : CoapPacket × ℕ} (h : coapCommParseOptions pkt raw pos = .ok r) :
    ∃ opNum options, parseOptionsLoop raw coapOptionMaxNum 0 0 pkt.options pos = .ok (opNum, options, r.2) ∧
      r.1 = { pkt with opNum := opNum, options := options } := by
  unfold coapCommParseOptions at h
  split_ifs at h
  cases hloop : parseOptionsLoop raw coapOptionMaxNum 0 0 pkt.options pos with
  | error ret =>
    rw [hloop] at h
    cases h
  | ok found =>
    rw [hloop] at h
    cases h
    exact ⟨found.1, found.2.1, rfl, rfl⟩

variable {pkt' : CoapPacket}

theorem parsePayload_ok {p : ℕ} (h : coapCommParsePayload pkt raw pos = .ok (pkt', p)) :
    ∃ payload, pkt' = { pkt with payload := payload } := by
  unfold coapCommParsePayload at h
  split_ifs at h <;> cases h <;> exact ⟨_, rfl⟩

theorem parseBody_ok (h : parseBody pkt raw pos = .ok pkt') :
    ∃ r r' p, coapCommParseToken pkt raw pos = .ok r ∧ coapCommParseOptions r.1 raw r.2 = .ok r' ∧
      coapCommParsePayload r'.1 raw r'.2 = .ok (pkt', p) := by
  unfold parseBody at h
  cases htoken : coapCommParseToken pkt raw pos with
  | error ret =>
    rw [htoken] at h
    cases h
  | ok r =>
    rw [htoken] at h
    dsimp only at h
    cases hoptions : coapCommParseOptions r.1 raw r.2 with
    | error ret =>
      rw [hoptions] at h
      cases h
    | ok r' =>
      rw [hoptions] at h
      dsimp only at h
      cases hpayload : coapCommParsePayload r'.1 raw r'.2 with
      | error ret =>
        rw [hpayload] at h
        cases h
      | ok r'' =>
        rw [hpayload] at h
        cases h
        exact ⟨r, r', r''.2, rfl, hoptions, hpayload⟩

theorem parseBody_frame (h : parseBody pkt raw pos = .ok pkt') :
    pkt'.header = pkt.header ∧ pkt'.tcpheader = pkt.tcpheader := by
  obtain ⟨r, r', p, htoken, hoptions, hpayload⟩ := parseBody_ok h
  obtain ⟨-, htok⟩ := parseToken_ok htoken
  obtain ⟨opNum, options, -, hopt⟩ := parseOptions_ok hoptions
  obtain ⟨payload, hpay⟩ := parsePayload_ok hpayload
  rw [hpay, hopt, htok]
  exact ⟨rfl, rfl⟩

theorem parseBody_token (h : parseBody pkt raw pos = .ok pkt') :
    pkt.header.tkl.val ≤ 8 ∧ pkt'.token = store pkt.token 0 (load raw.data pos pkt.header.tkl.val) := by
  obtain ⟨r, r', p, htoken, hoptions, hpayload⟩ := parseBody_ok h
  obtain ⟨h8, htok⟩ := parseToken_ok htoken
  obtain ⟨opNum, options, -, hopt⟩ := parseOptions_ok hoptions
  obtain ⟨payload, hpay⟩ := parsePayload_ok hpayload
  rw [hpay, hopt, htok]
  exact ⟨h8, rfl⟩

theorem parseBody_options_ascending (h : parseBody pkt raw pos = .ok pkt') :
    ∀ i j, i ≤ j → j < pkt'.opNum → (pkt'.options i).option ≤ (pkt'.options j).option := by
  obtain ⟨r, r', p, -, hoptions, hpayload⟩ := parseBody_ok h
  obtain ⟨opNum, options, hloop, hopt⟩ := parseOptions_ok hoptions
  obtain ⟨payload, hpay⟩ := parsePayload_ok hpayload
  rw [hpay, hopt]
  exact parseOptionsLoop_ascending hloop (fun i j _ hj => absurd hj (Nat.not_lt_zero j))
    fun i hi => absurd hi (Nat.not_lt_zero i)

theorem bodyBytes_length (build : CoapBuildPacket) (payload : List UInt8) : (bodyBytes build payload).length =
    build.header.tkl.val + ((optionsBytes 0 build.options).length + 1 + payload.length) := by
  simp only [bodyBytes, List.length_append, load_length, List.length_singleton]

theorem parseBody_bodyBytes (htkl : pkt.header.tkl = build.header.tkl) (h8 : build.header.tkl.val ≤ 8)
    (hmem : Holds raw.data pos (bodyBytes build payload)) (hlen : raw.len = pos + (bodyBytes build payload).length) :
    ∃ token, load token 0 build.header.tkl.val = load build.token 0 build.header.tkl.val ∧
      parseBody pkt raw pos =
        match parseOptionsLoop raw coapOptionMaxNum 0 0 pkt.options (pos + build.header.tkl.val) with
        | .error ret => .error ret
        | .ok (opNum, options, pos) =>
          (coapCommParsePayload { pkt with token := token, opNum := opNum, options := options } raw pos).map Prod.fst := by
  rw [bodyBytes_length] at hlen
  unfold bodyBytes at hmem
  rw [holds_append, load_length] at hmem
  obtain ⟨token, hptok, htoken⟩ := parseToken_body htkl h8 hmem.1 (by omega)
  refine ⟨token, htoken, ?_⟩
  unfold parseBody
  rw [hptok]
  unfold coapCommParseOptions
  dsimp only
  rw [if_neg (not_not.mpr ⟨by omega, by omega⟩)]
  cases parseOptionsLoop raw coapOptionMaxNum 0 0 pkt.options (pos + build.header.tkl.val) with
  | error ret => rfl
  | ok r =>
    dsimp only
    cases coapCommParsePayload { pkt with token := token, opNum := r.1, options := r.2.1 } raw r.2.2 <;> rfl

theorem holds_options (hmem : Holds raw.data pos (bodyBytes build payload)) :
    Holds raw.data (pos + build.header.tkl.val) (optionsBytes 0 build.options ++ [0xFF]) := by
  unfold bodyBytes at hmem
  rw [holds_append, load_length] at hmem
  exact ((holds_append _ _ _ _).mp hmem.2).1

variable (pkt) in
theorem parseBody_plain (htkl : pkt.header.tkl = build.header.tkl) (h8 : build.header.tkl.val ≤ 8)
    (hopts : OptionsOk build.options) (hmem : Holds raw.data pos (bodyBytes build payload))
    (hlen : raw.len = pos + (bodyBytes build payload).length) (hplain : Plain 0 build.options) :
    ∃ pkt', parseBody pkt raw pos = .ok pkt' ∧
      load pkt'.token 0 build.header.tkl.val = load build.token 0 build.header.tkl.val ∧
      pkt'.opNum = build.options.length ∧
      pkt'.payload = ⟨some (pos + (bodyBytes build []).length), payload.length⟩ ∧
      ∀ raw' : CoapRaw, Holds raw'.data pos (bodyBytes build []) → Recovered raw' 0 build.options pkt'.options := by
  obtain ⟨token, htoken, hparse⟩ := parseBody_bodyBytes htkl h8 hmem hlen
  rw [bodyBytes_length] at hlen
  obtain ⟨options', hloop, hrec⟩ := parseOptionsLoop_plain raw build.options coapOptionMaxNum 0 0 pkt.options
    (pos + build.header.tkl.val) hopts.num hopts.ascend hopts.len (holds_options hmem) (by omega) hplain
  have hmark : Holds raw.data (pos + build.header.tkl.val + (optionsBytes 0 build.options).length)
      ([0xFF] ++ payload) := by
    unfold bodyBytes at hmem
    rw [holds_append, load_length, List.append_assoc, holds_append] at hmem
    exact hmem.2.2
  rw [hparse, hloop]
  dsimp only
  rw [(parsePayload_marker hmark (by omega)).1]
  refine ⟨_, rfl, htoken, Nat.zero_add _, ?_, fun raw' hmem' => hrec raw' (holds_options hmem')⟩
  rw [bodyBytes_length, List.length_nil]
  simp only [Nat.add_assoc, Nat.add_zero]

theorem plain_of_parseBody (raw' : CoapRaw) (htkl : pkt.header.tkl = build.header.tkl)
    (h8 : build.header.tkl.val ≤ 8) (hopts : OptionsOk build.options)
    (hmem : Holds raw.data pos (bodyBytes build payload)) (hlen : raw.len = pos + (bodyBytes build payload).length)
    (hok : parseBody pkt raw pos = .ok pkt') (hrec : Recovered raw' 0 build.options pkt'.options) :
    Plain 0 build.options := by
  obtain ⟨token, -, hparse⟩ := parseBody_bodyBytes htkl h8 hmem hlen
  rw [bodyBytes_length] at hlen
  rw [hparse] at hok
  cases hloop : parseOptionsLoop raw coapOptionMaxNum 0 0 pkt.options (pos + build.header.tkl.val) with
  | error ret =>
    rw [hloop] at hok
    cases hok
  | ok r =>
    obtain ⟨m, options', pos'⟩ := r
    refine plain_of_recovered raw raw' build.options coapOptionMaxNum 0 0 pkt.options _ hopts.num hopts.ascend
      hopts.len (holds_options hmem) (by omega) hloop ?_
    rw [hloop] at hok
    -- the payload parser keeps the options
    unfold coapCommParsePayload at hok
    dsimp only at hok
    split at hok
    · cases hok
    split at hok <;> cases hok <;> exact hrec

variable (payload pkt) in
theorem parseBody_recovers_iff (htkl : pkt.header.tkl = build.header.tkl) (h8 : build.header.tkl.val ≤ 8)
    (hopts : OptionsOk build.options) (hmem : Holds raw.data pos (bodyBytes build payload))
    (hlen : raw.len = pos + (bodyBytes build payload).length) :
    (∃ pkt', parseBody pkt raw pos = .ok pkt' ∧ SameBody build payload raw pkt') ↔ Plain 0 build.options := by
  constructor
  · rintro ⟨pkt', hok, hsame⟩
    exact plain_of_parseBody raw htkl h8 hopts hmem hlen hok hsame.options
  · intro hplain
    obtain ⟨pkt', hok, htoken, hnum, hpay, hrec⟩ := parseBody_plain pkt htkl h8 hopts hmem hlen hplain
    have hsplit : bodyBytes build payload = bodyBytes build [] ++ payload := by
      simp only [bodyBytes, List.append_assoc, List.append_nil]
    rw [hsplit, holds_append] at hmem
    refine ⟨pkt', hok, htoken, hnum, hrec raw hmem.1, ?_, ?_⟩
    · rw [hpay]
      exact hmem.2
    · rw [hpay]

end Body

end IotConnect.Coap
