import IotConnect.Coap.TcpLength
import IotConnect.Coap.TcpProtection

/-! # The encrypted round trip of CoAP over TCP

A frame is built plain, with the length field of the sealed one, and sealed in place. The peer finds the
HMAC and the ciphertext by that length field alone. So a sealed frame comes back exactly when the field
is exact, and it stays inside the buffer exactly when the HMAC, whose room is never checked, fits. -/
namespace IotConnect.Coap
open Memory
set_option autoImplicit false

/-! ## The two ends of a session -/

/-- Both ends have an active key, the same key and salt, the same key derivation and HMAC, and the
receiver's cipher undoes the sender's. -/
structure Peers (ctx ctx' : M2mCloudContext) : Prop where
  active : ctx.pskActive
  active' : ctx'.pskActive
  key : ctx'.pskInfo.key = ctx.pskInfo.key
  salt : ctx'.pskInfo.salt = ctx.pskInfo.salt
  pbkdf2Hmac : ctx'.crypto.pbkdf2Hmac = ctx.crypto.pbkdf2Hmac
  hmacCalc : ctx'.crypto.hmacCalc = ctx.crypto.hmacCalc
  decrypts : ∀ key iv data c, ctx.crypto.aesCbcEncrypt key iv data = .ok c →
    ctx'.crypto.aesCbcDecrypt key iv c = .ok data

section Peers
variable {ctx ctx' : M2mCloudContext}

theorem Peers.stationSessCalHmac_eq (h : Peers ctx ctx') (data : List UInt8) :
    stationSessCalHmac ctx' data = stationSessCalHmac ctx data := by
  unfold stationSessCalHmac
  rw [h.key, h.salt, h.pbkdf2Hmac, h.hmacCalc]

theorem Peers.pskDecryptData_eq (h : Peers ctx ctx') {data c : List UInt8} (henc : pskEncryptData ctx data = .ok c)
    (hmalloc : ctx'.crypto.mallocDec = true) : pskDecryptData ctx' c = .ok data := by
  have hlen := pskEncryptData_length henc
  unfold pskEncryptData at henc
  split at henc
  · cases henc
  split at henc
  · cases henc
  unfold pskDecryptData
  rw [if_neg (by rintro (hf | hz) <;> [simp [h.active'.1] at hf; omega]), if_neg (by simp [hmalloc]), h.key]
  exact h.decrypts _ _ _ _ henc

end Peers

/-! ## Building in any empty buffer of one size -/

/-- What the length field counts in a sealed frame: options, marker, ciphertext and HMAC. -/
def sealedLen (build : CoapBuildPacket) (payload : List UInt8) : ℕ :=
  (optionsBytes 0 build.options).length + 1 + 16 * (payload.length / 16 + 1) + sessHmacLen

section Frame
variable {ctx : M2mCloudContext} {build : CoapBuildPacket} {pkt : CoapPacket} {buf buf' : CoapBuffer}

variable (buf buf') in
theorem tcpExlen_active (hpsk : ctx.pskActive) (hpay : build.payload.isSome ∨ build.buildFunc.isSome)
    (hempty : buf.len = 0) (hsize : buf.size = buf'.size) (hcb : StableCallback build)
    (h : (tcpV1EncodePlain ctx build pkt buf').1 = .ok) :
    tcpExlen ctx build pkt buf = sealedLen build (tcpPayload ctx build pkt buf') := by
  obtain ⟨hopt, hok, hsent⟩ := dryRun_builds buf buf' hempty hsize hcb h
  obtain ⟨-, hend, hpkt⟩ := buildPayload_ok hok
  have hlen : (coapCommBuildPayload build (coapCommBuildOption build pkt buf).2.1
      (coapCommBuildOption build pkt buf).2.2).2.1.payload.len = (tcpPayload ctx build pkt buf').length := by
    rcases hpkt with ⟨hp, hf, -⟩ | ⟨-, heq⟩
    · simp [hp, hf] at hpay
    · rw [heq, hsent]
  unfold tcpExlen tcpDryRun sealedLen coapTcpDataEncryptPadding
  dsimp only
  rw [if_pos hpsk, hlen, hend, hsent, hopt]
  simp only [CoapBuffer.push_len, List.length_append, List.length_singleton]
  omega

variable (buf buf') in
theorem tcpV1EncodePlain_of_size (hpsk : ctx.pskActive) (hpay : build.payload.isSome ∨ build.buildFunc.isSome)
    (hempty : buf.len = 0) (hempty' : buf'.len = 0) (hsize : buf.size = buf'.size) (hcb : StableCallback build)
    (h : (tcpV1EncodePlain ctx build pkt buf').1 = .ok) :
    (tcpV1EncodePlain ctx build pkt buf).1 = .ok ∧
      tcpPayload ctx build pkt buf = tcpPayload ctx build pkt buf' := by
  obtain ⟨-, -, hhead', hfit, -⟩ := tcpV1EncodePlain_ok h
  have hexlen : (tcpDryRun ctx build pkt buf).1.tcpheader.exlen = (tcpDryRun ctx build pkt buf').1.tcpheader.exlen :=
    (tcpExlen_active buf buf' hpsk hpay hempty hsize hcb h).trans
      (tcpExlen_active buf' buf' hpsk hpay hempty' rfl hcb h).symm
  have hdry := tcpDryRun_buffer buf buf' hempty hsize hcb h
  have hdry' := tcpDryRun_buffer buf' buf' hempty' rfl hcb h
  have hsizes : (tcpDryRun ctx build pkt buf).2.size = (tcpDryRun ctx build pkt buf').2.size := by
    rw [hdry, hdry', hsize]
  have hroom : (tcpDryRun ctx build pkt buf).2.room = (tcpDryRun ctx build pkt buf').2.room := by
    rw [hdry, hdry', CoapBuffer.room, CoapBuffer.room, hsize, hempty, hempty']
  have hhead : (tcpEncodeHead build (tcpDryRun ctx build pkt buf).1 (tcpDryRun ctx build pkt buf).2).1 = .ok := by
    refine (tcpEncodeHead_again hhead' hexlen hsizes).mpr ?_
    rw [hroom]
    exact (tcpEncodeHead_again hhead' rfl rfl).mp hhead'
  obtain ⟨-, -, -, hbuf, -⟩ := tcpEncodeHead_ok hhead
  obtain ⟨-, -, -, hbuf', -⟩ := tcpEncodeHead_ok hhead'
  obtain ⟨hpayload, hsent⟩ := buildPayload_earlier
    (tcpEncodeHead build (tcpDryRun ctx build pkt buf).1 (tcpDryRun ctx build pkt buf).2).2.1
    (tcpEncodeHead build (tcpDryRun ctx build pkt buf).1 (tcpDryRun ctx build pkt buf).2).2.2 hcb
    (by rw [hbuf, hbuf', CoapBuffer.push_size, CoapBuffer.push_size]; exact hsizes)
    (by rw [hbuf, hbuf', CoapBuffer.push_len, CoapBuffer.push_len, hexlen]) (tcpV1EncodePlain_payload h)
  refine ⟨?_, hsent⟩
  have hpos : buf.size ≠ 0 := by
    have := tcpHeadBytes_length build (tcpExlen ctx build pkt buf')
    omega
  unfold tcpV1EncodePlain
  rw [if_neg hpos]
  dsimp only
  rw [← tcpEncodeHead]
  exact Built.andThen_ok_iff.mpr ⟨hhead, hpayload⟩

end Frame

/-! ## The sealed frame -/

section Sealed
variable {ctx : M2mCloudContext} {build : CoapBuildPacket} {pkt : CoapPacket} {mem : ℕ → UInt8} {size : ℕ}

def sealedHead (build : CoapBuildPacket) (payload : List UInt8) : List UInt8 :=
  tcpHeadBytes build (sealedLen build payload)

/-- The plain frame in a buffer that held `mem`: the dry run's bytes lie below the frame's. -/
def plainBuffer (build : CoapBuildPacket) (payload : List UInt8) (mem : ℕ → UInt8) (size : ℕ) : CoapBuffer :=
  CoapBuffer.push ⟨store mem 0 (optionsBytes 0 build.options ++ [0xFF] ++ payload), size, 0⟩
    (sealedHead build payload ++ payload)

theorem sealedHead_length (build : CoapBuildPacket) (payload : List UInt8) :
    (sealedHead build payload).length + 16 * (payload.length / 16 + 1) + sessHmacLen =
      2 + (extBytes (sealedLen build payload)).length + build.header.tkl.val + sealedLen build payload := by
  rw [sealedHead, tcpHeadBytes_length]
  unfold sealedLen
  omega

theorem plainBuffer_len (build : CoapBuildPacket) (payload : List UInt8) (mem : ℕ → UInt8) (size : ℕ) :
    (plainBuffer build payload mem size).len = (sealedHead build payload).length + payload.length := by
  rw [plainBuffer, CoapBuffer.push_len, List.length_append, Nat.zero_add]

theorem plainBuffer_above (build : CoapBuildPacket) (payload : List UInt8) (mem : ℕ → UInt8) (size i : ℕ)
    (hi : (sealedHead build payload).length + payload.length ≤ i) :
    (plainBuffer build payload mem size).buffer i = mem i := by
  have hhead := tcpHeadBytes_length build (sealedLen build payload)
  rw [← sealedHead] at hhead
  rw [plainBuffer, CoapBuffer.push_buffer]
  dsimp only
  rw [store_apply_ge _ _ _ _ (by rw [List.length_append]; omega),
    store_apply_ge _ _ _ _ (by simp only [List.length_append, List.length_singleton]; omega)]

/-- What `CoapTcpV1Encode` leaves in the buffer. -/
def sealedOutcome (ctx : M2mCloudContext) (build : CoapBuildPacket) (payload : List UInt8) (mem : ℕ → UInt8)
    (size : ℕ) : CoapBuffer :=
  let frame := plainBuffer build payload mem size
  let head := sealedHead build payload
  match pskEncryptData ctx payload with
  | .error _ => frame
  | .ok cipher =>
    if 4 ≤ frame.room then
      if ctx.crypto.mallocHmac = false then rebuiltHead head frame
      else if head.length + cipher.length < size then
        sealedBuffer head cipher (hmacBuffer (stationSessCalHmac ctx (head ++ cipher))) frame
      else (rebuiltHead head frame).push (hmacBuffer (stationSessCalHmac ctx (head ++ cipher)))
    else frame

theorem coapTcpEncrypt_of_error {buf : CoapBuffer} (hpsk : ctx.pskActive) (ret : IotcRet)
    (henc : pskEncryptData ctx (CoapRaw.read ⟨buf.buffer, buf.len⟩ pkt.payload) = .error ret) :
    (coapTcpEncrypt ctx build pkt buf).2.2 = buf := by
  unfold coapTcpEncrypt
  rw [if_pos hpsk]
  simp only [henc]

theorem coapTcpV1Encode_outcome (hpsk : ctx.pskActive) (hpay : build.payload.isSome ∨ build.buildFunc.isSome)
    (hcb : StableCallback build) (hok : (coapTcpV1Encode ctx build pkt ⟨mem, size, 0⟩).1 = .ok) (mem' : ℕ → UInt8) :
    0 < (tcpPayload ctx build pkt ⟨mem, size, 0⟩).length ∧ OptionsOk build.options ∧ build.header.tkl.val ≤ 8 ∧
      (coapTcpV1Encode ctx build pkt ⟨mem', size, 0⟩).2.2 =
        sealedOutcome ctx build (tcpPayload ctx build pkt ⟨mem, size, 0⟩) mem' size := by
  rw [coapTcpV1Encode] at hok
  have hplain := (Built.andThen_ok_iff.mp hok).1
  obtain ⟨hplain', hsame⟩ := tcpV1EncodePlain_of_size ⟨mem', size, 0⟩ ⟨mem, size, 0⟩ hpsk hpay rfl rfl rfl hcb hplain
  obtain ⟨h8, hopts, hfirst, -, hbuf, hexlen, hpayload⟩ := tcpV1EncodePlain_ok hplain'
  obtain ⟨hpos, hpoint⟩ := hpayload hpay
  have hfield := tcpExlen_active ⟨mem', size, 0⟩ ⟨mem, size, 0⟩ hpsk hpay rfl rfl hcb hplain
  have hdry := tcpDryRun_buffer ⟨mem', size, 0⟩ ⟨mem, size, 0⟩ rfl rfl hcb hplain
  rw [coapTcpV1Encode, Built.andThen_of_ok hplain']
  rw [hsame] at hpos hpoint hbuf
  rw [hfield] at hpoint hbuf hexlen
  generalize tcpPayload ctx build pkt ⟨mem, size, 0⟩ = payload at *
  refine ⟨hpos, hopts, h8, ?_⟩
  have hframe : (tcpV1EncodePlain ctx build pkt ⟨mem', size, 0⟩).2.2 = plainBuffer build payload mem' size := by
    rw [hbuf, hdry]
    rfl
  unfold sealedOutcome
  dsimp only
  cases henc : pskEncryptData ctx payload with
  | error ret =>
    dsimp only
    rw [← hframe]
    refine coapTcpEncrypt_of_error hpsk ret ?_
    rw [hframe, hpoint, CoapRaw.read]
    have hbytes := holds_store (store mem' 0 (optionsBytes 0 build.options ++ [0xFF] ++ payload)) 0
      (sealedHead build payload ++ payload)
    rw [holds_append, Nat.zero_add] at hbytes
    rw [← henc]
    exact congrArg _ hbytes.2
  | ok cipher =>
    dsimp only
    rw [coapTcpEncrypt_frame hpsk hfirst (hexlen.trans hfield.symm) rfl (by rw [← tcpExlen, hfield]) hbuf hpoint
      henc, hframe]
    rfl

end Sealed

section Outcome
variable {ctx : M2mCloudContext} {build : CoapBuildPacket} {payload cipher : List UInt8} {size : ℕ}

def sealedMac (ctx : M2mCloudContext) (build : CoapBuildPacket) (payload cipher : List UInt8) : List UInt8 :=
  hmacBuffer (stationSessCalHmac ctx (sealedHead build payload ++ cipher))

theorem sealedOutcome_of_room (henc : pskEncryptData ctx payload = .ok cipher)
    (hmalloc : ctx.crypto.mallocHmac = true)
    (hfit : (sealedHead build payload).length + cipher.length + sessHmacLen ≤ size) (mem : ℕ → UInt8) :
    sealedOutcome ctx build payload mem size = sealedBuffer (sealedHead build payload) cipher
      (sealedMac ctx build payload cipher) (plainBuffer build payload mem size) := by
  have hcl := pskEncryptData_length henc
  unfold sessHmacLen at hfit
  have hlen := plainBuffer_len build payload mem size
  have hroom : 4 ≤ (plainBuffer build payload mem size).room := by
    have hsize : (plainBuffer build payload mem size).size = size := rfl
    rw [CoapBuffer.room_of_le (by omega)]
    omega
  unfold sealedOutcome
  simp only [henc]
  rw [if_pos hroom, if_neg (by simp [hmalloc]), if_pos (by omega), sealedMac]

theorem sealedOutcome_of_len {mem : ℕ → UInt8} (hlen : (sealedOutcome ctx build payload mem size).len =
      (sealedHead build payload).length + 16 * (payload.length / 16 + 1) + sessHmacLen) :
    ∃ cipher, pskEncryptData ctx payload = .ok cipher ∧ ctx.crypto.mallocHmac = true ∧
      ∀ mem', sealedOutcome ctx build payload mem' size = sealedBuffer (sealedHead build payload) cipher
        (sealedMac ctx build payload cipher) (plainBuffer build payload mem' size) := by
  have hplain := plainBuffer_len build payload mem size
  have hhead : (rebuiltHead (sealedHead build payload) (plainBuffer build payload mem size)).len =
      (sealedHead build payload).length := by
    rw [rebuiltHead, CoapBuffer.push_len, Nat.zero_add]
  unfold sealedOutcome at hlen ⊢
  unfold sessHmacLen at hlen
  dsimp only at hlen ⊢
  cases henc : pskEncryptData ctx payload with
  | error ret =>
    rw [henc] at hlen
    dsimp only at hlen
    omega
  | ok cipher =>
    rw [henc] at hlen
    have hcl := pskEncryptData_length henc
    dsimp only at hlen ⊢
    by_cases hroom : 4 ≤ (plainBuffer build payload mem size).room
    · rw [if_pos hroom] at hlen
      by_cases hmalloc : ctx.crypto.mallocHmac = false
      · rw [if_pos hmalloc] at hlen
        omega
      rw [if_neg hmalloc] at hlen
      by_cases hfit : (sealedHead build payload).length + cipher.length < size
      · refine ⟨cipher, rfl, by simpa using hmalloc, fun mem' => ?_⟩
        have hroom' : 4 ≤ (plainBuffer build payload mem' size).room := hroom
        rw [if_pos hroom', if_neg hmalloc, if_pos hfit, sealedMac]
      · rw [if_neg hfit, CoapBuffer.push_len, hmacBuffer_length, sessHmacLen] at hlen
        omega
    · rw [if_neg hroom] at hlen
      omega

theorem sealedBuffer_len (headBytes cipher mac : List UInt8) (buf : CoapBuffer) :
    (sealedBuffer headBytes cipher mac buf).len = headBytes.length + cipher.length + mac.length := rfl

theorem sealedBuffer_holds (headBytes cipher mac : List UInt8) (buf : CoapBuffer) :
    Holds (sealedBuffer headBytes cipher mac buf).buffer 0 (headBytes ++ (cipher ++ mac)) := by
  obtain ⟨hall, htail⟩ := load_sealed cipher mac (rebuiltHead headBytes buf).buffer
    (load_store_self buf.buffer 0 headBytes)
  rw [holds_append, Nat.zero_add]
  rw [load_add, List.append_eq_append_iff_of_size_eq_left (by simp)] at hall
  refine ⟨hall.1, ?_⟩
  unfold Holds
  rw [List.length_append]
  exact htail

theorem sealedBuffer_above (mac : List UInt8) (mem : ℕ → UInt8) (i : ℕ) (hmac : 0 < mac.length)
    (hcl : cipher.length = 16 * (payload.length / 16 + 1))
    (hi : (sealedHead build payload).length + cipher.length + mac.length ≤ i) :
    (sealedBuffer (sealedHead build payload) cipher mac (plainBuffer build payload mem size)).buffer i = mem i := by
  unfold sealedBuffer rebuiltHead
  simp only [CoapBuffer.push_buffer]
  rw [store_apply_ge _ _ _ _ hi, store_apply_ge _ _ _ _ (by rw [List.length_singleton]; omega),
    store_apply_ge _ _ _ _ (by omega), store_apply_ge _ _ _ _ (by omega), plainBuffer_above _ _ _ _ _ (by omega)]

theorem sealedBuffer_last (headBytes cipher mac : List UInt8) (buf : CoapBuffer) (k : ℕ) (hk : k < mac.length) :
    (sealedBuffer headBytes cipher mac buf).buffer (headBytes.length + cipher.length + k) = mac[k] := by
  unfold sealedBuffer
  rw [CoapBuffer.push_buffer]
  exact store_apply_mid _ _ _ _ hk

end Outcome

/-! ## Decoding -/

section Decode
variable {ctx ctx' : M2mCloudContext} {p : CoapPacket} {raw : CoapRaw}

theorem coapTcpDecrypt_keeps (ctx : M2mCloudContext) (p : CoapPacket) (raw : CoapRaw) :
    ∃ payload, (coapTcpDecrypt ctx p raw).2.1 = { p with payload := payload } := by
  unfold coapTcpDecrypt
  split
  · dsimp only
    split
    · exact ⟨p.payload, rfl⟩
    split
    · exact ⟨p.payload, rfl⟩
    split
    · exact ⟨p.payload, rfl⟩
    split
    · exact ⟨p.payload, rfl⟩
    split
    · exact ⟨p.payload, rfl⟩
    · exact ⟨_, rfl⟩
  · exact ⟨p.payload, rfl⟩

variable (p raw) in
theorem coapTcpDecrypt_of_no_memory (hpsk : ctx.pskActive)
    (h : ¬ (ctx.crypto.mallocHmac = true ∧ ctx.crypto.mallocDec = true)) :
    (coapTcpDecrypt ctx p raw).2 = (p, raw) := by
  unfold coapTcpDecrypt
  rw [if_pos hpsk]
  dsimp only
  split
  · rfl
  split
  · rfl
  rename_i hmalloc
  split
  · rfl
  have hdec : ctx.crypto.mallocDec = false := by
    rw [Bool.not_eq_false] at hmalloc
    by_contra hc
    exact h ⟨hmalloc, by simpa using hc⟩
  have herr : ∀ data, ∃ ret, pskDecryptData ctx data = .error ret := by
    intro data
    unfold pskDecryptData
    split
    · exact ⟨_, rfl⟩
    · exact ⟨_, rfl⟩
  obtain ⟨ret, hret⟩ := herr (raw.read { p.payload with len := u32Sub p.payload.len sessHmacLen })
  rw [hret]

theorem coapTcpDecrypt_sealed (h : Peers ctx ctx') {head payload cipher : List UInt8} (hne : payload ≠ [])
    (henc : pskEncryptData ctx payload = .ok cipher) (hhmac : ctx'.crypto.mallocHmac = true)
    (hdec : ctx'.crypto.mallocDec = true)
    (hmem : Holds raw.data 0 (head ++ (cipher ++ hmacBuffer (stationSessCalHmac ctx (head ++ cipher)))))
    (hexlen : p.tcpheader.exlen = head.length + cipher.length + sessHmacLen)
    (hpay : p.payload = ⟨some head.length, cipher.length + sessHmacLen⟩) :
    (coapTcpDecrypt ctx' p raw).2 = ({ p with payload := ⟨some head.length, payload.length⟩ },
      { raw with data := store raw.data head.length payload }) := by
  have hplain := h.pskDecryptData_eq henc hdec
  have hall := hmem
  rw [← List.append_assoc, holds_append] at hall
  rw [holds_append, holds_append, Nat.zero_add] at hmem
  have hbefore : load raw.data 0 (head.length + cipher.length) = head ++ cipher := by
    rw [← List.length_append]
    exact hall.1
  have hmac : load raw.data (head.length + cipher.length) sessHmacLen =
      hmacBuffer (stationSessCalHmac ctx (head ++ cipher)) := by
    have hlast := hmem.2.2
    rwa [Holds, hmacBuffer_length] at hlast
  have hread : raw.read ⟨some head.length, u32Sub (cipher.length + sessHmacLen) sessHmacLen⟩ = cipher := by
    rw [u32Sub_of_le (by omega), Nat.add_sub_cancel]
    exact hmem.2.1
  unfold coapTcpDecrypt
  rw [if_pos h.active']
  simp only [hexlen, hpay, Nat.add_sub_cancel, hbefore, hmac, h.stationSessCalHmac_eq, hread, hplain]
  rw [if_neg (by unfold coapTcpHeaderMinLen sessHmacLen; omega), if_neg (by simp [hhmac]),
    if_neg (not_not.mpr rfl), if_neg (fun h0 => hne (List.length_eq_zero_iff.mp h0))]
  rfl

end Decode

/-! ## The round trip -/

/-- The frame in `out` is sealed, the peer accepts it, reads its length and recovers the packet. -/
def SealedRoundTrip (ctx' : M2mCloudContext) (pkt0 : CoapPacket) (build : CoapBuildPacket) (payload : List UInt8)
    (out : CoapBuffer) : Prop :=
  out.len = (sealedHead build payload).length + 16 * (payload.length / 16 + 1) + sessHmacLen ∧
    ∃ pkt' raw', coapTcpV1Decode ctx' pkt0 (out.since 0) = .ok (pkt', raw') ∧
      pkt'.header.code = build.header.code ∧ pkt'.header.tkl = build.header.tkl ∧
      SameBody build payload raw' pkt' ∧ pkt'.tcpheader.exlen = out.len

/-- The packets that make the trip: the cipher and the allocations of both ends succeed, the options are
plain, the length is exact and there is room for the ciphertext and the HMAC. -/
structure Sealable (ctx ctx' : M2mCloudContext) (build : CoapBuildPacket) (payload : List UInt8) (size : ℕ) :
    Prop where
  cipher : ∃ cipher, pskEncryptData ctx payload = .ok cipher
  malloc : ctx.crypto.mallocHmac = true
  malloc' : ctx'.crypto.mallocHmac = true ∧ ctx'.crypto.mallocDec = true
  plain : Plain 0 build.options
  exact : LengthExact (sealedLen build payload)
  room : (sealedHead build payload).length + 16 * (payload.length / 16 + 1) + sessHmacLen ≤ size

section RoundTrip
variable {ctx ctx' : M2mCloudContext} {build : CoapBuildPacket} {payload cipher : List UInt8} {size : ℕ}

variable (build payload cipher) in
theorem tcpV1Parse_sealed (mac : List UInt8) (hmac : mac.length = sessHmacLen) (buf : CoapBuffer)
    (pkt0 : CoapPacket) {raw : CoapRaw}
    (hraw : (sealedBuffer (sealedHead build payload) cipher mac buf).since 0 = raw) :
    Holds raw.data 0 (sealedHead build payload ++ (cipher ++ mac)) ∧
      Holds raw.data (tcpHeaderBytes build.header (sealedLen build payload)).length (bodyBytes build (cipher ++ mac)) ∧
      raw.len = (tcpHeaderBytes build.header (sealedLen build payload)).length +
        (bodyBytes build (cipher ++ mac)).length ∧
      ∃ len, tcpV1Parse pkt0 raw = parseBody (pkt0.readHeader build.header len (sealedLen build payload)) raw
        (tcpHeaderBytes build.header (sealedLen build payload)).length := by
  have hdata : raw.data = (sealedBuffer (sealedHead build payload) cipher mac buf).buffer := by
    rw [← hraw]
    funext i
    simp [CoapBuffer.since]
  have hlen : raw.len = (sealedHead build payload ++ (cipher ++ mac)).length := by
    rw [← hraw, CoapBuffer.since, sealedBuffer_len]
    simp only [List.length_append]
    omega
  have hmem : Holds raw.data 0 (sealedHead build payload ++ (cipher ++ mac)) := by
    rw [hdata]
    exact sealedBuffer_holds _ _ _ _
  have h4 : 4 ≤ raw.len := by
    rw [hlen, List.length_append, List.length_append, hmac]
    unfold sessHmacLen
    omega
  exact ⟨hmem, tcpV1Parse_head build (sealedLen build payload) (cipher ++ mac) pkt0 raw hmem hlen h4⟩

theorem roundTrip_of_exact (h : Peers ctx ctx') (hne : payload ≠ []) (h8 : build.header.tkl.val ≤ 8)
    (hopts : OptionsOk build.options) (henc : pskEncryptData ctx payload = .ok cipher)
    (hmalloc : ctx'.crypto.mallocHmac = true ∧ ctx'.crypto.mallocDec = true) (hplain : Plain 0 build.options)
    (hexact : LengthExact (sealedLen build payload))
    (hsmall : (sealedHead build payload).length + cipher.length + sessHmacLen < 2 ^ 32) (pkt0 : CoapPacket)
    (buf : CoapBuffer) :
    SealedRoundTrip ctx' pkt0 build payload
      (sealedBuffer (sealedHead build payload) cipher (sealedMac ctx build payload cipher) buf) := by
  have hcl := pskEncryptData_length henc
  have hmaclen : (sealedMac ctx build payload cipher).length = sessHmacLen := hmacBuffer_length _
  have htotal := sealedHead_length build payload
  unfold SealedRoundTrip
  generalize hraw : CoapBuffer.since _ 0 = raw
  obtain ⟨hmem, hbody, hlen, len, hparse⟩ := tcpV1Parse_sealed build payload cipher _ hmaclen buf pkt0 hraw
  rw [sealedBuffer_len, hmaclen]
  refine ⟨by rw [hcl], ?_⟩
  obtain ⟨p, hp, htoken, hnum, hpay, hrec⟩ := parseBody_plain
    (pkt0.readHeader build.header len (sealedLen build payload)) rfl h8 hopts hbody hlen hplain
  obtain ⟨hheader, htcp⟩ := parseBody_frame hp
  -- the receiver reads the length of the frame, and finds the parts where they are
  have hexlen : p.tcpheader.exlen = (sealedHead build payload).length + cipher.length + sessHmacLen := by
    have := (decoded_exlen_iff (sealedLen build payload) build.header.tkl.val build.header.tkl.isLt
      (by omega)).mpr hexact
    rw [htcp, CoapPacket.readHeader]
    dsimp only
    omega
  have hpoint : p.payload = ⟨some (sealedHead build payload).length, cipher.length + sessHmacLen⟩ := by
    rw [hpay, List.length_append, hmaclen, sealedHead, tcpHeadBytes, List.length_append]
  have hrun := coapTcpDecrypt_sealed h hne henc hmalloc.1 hmalloc.2 hmem hexlen hpoint
  have hdec : coapTcpV1Decode ctx' pkt0 raw = .ok ({ p with payload := ⟨some (sealedHead build payload).length,
      payload.length⟩ }, { raw with data := store raw.data (sealedHead build payload).length payload }) := by
    rw [coapTcpV1Decode, hparse, hp]
    exact congrArg _ hrun
  refine ⟨_, _, hdec, ?_, ?_, ⟨htoken, hnum, hrec _ ?_, ?_, rfl⟩, hexlen⟩
  · rw [hheader]
    rfl
  · rw [hheader]
    rfl
  · -- the plaintext is written behind the marker
    rw [holds_append] at hmem
    have hhead := hmem.1
    rw [sealedHead, tcpHeadBytes, holds_append, Nat.zero_add] at hhead
    unfold Holds
    dsimp only
    rw [load_store_before _ _ _ _ _ (by rw [sealedHead, tcpHeadBytes, List.length_append])]
    exact hhead.2
  · exact load_store_self _ _ _

theorem exact_of_roundTrip (h : Peers ctx ctx') (h8 : build.header.tkl.val ≤ 8) (hopts : OptionsOk build.options)
    (henc : pskEncryptData ctx payload = .ok cipher)
    (hsmall : (sealedHead build payload).length + cipher.length + sessHmacLen < 2 ^ 32) {pkt0 : CoapPacket}
    {buf : CoapBuffer} (htrip : SealedRoundTrip ctx' pkt0 build payload
      (sealedBuffer (sealedHead build payload) cipher (sealedMac ctx build payload cipher) buf)) :
    (ctx'.crypto.mallocHmac = true ∧ ctx'.crypto.mallocDec = true) ∧ Plain 0 build.options ∧
      LengthExact (sealedLen build payload) := by
  have hcl := pskEncryptData_length henc
  have hmaclen : (sealedMac ctx build payload cipher).length = sessHmacLen := hmacBuffer_length _
  have htotal := sealedHead_length build payload
  obtain ⟨-, pkt', raw', hdec, -, -, hsame, hexlen⟩ := htrip
  generalize hraw : CoapBuffer.since _ 0 = raw at hdec
  obtain ⟨-, hbody, hlen, len, hparse⟩ := tcpV1Parse_sealed build payload cipher _ hmaclen buf pkt0 hraw
  rw [sealedBuffer_len, hmaclen] at hexlen
  unfold coapTcpV1Decode at hdec
  rw [hparse] at hdec
  split at hdec
  · cases hdec
  rename_i p hp
  have hrun : coapTcpDecrypt ctx' p raw = ((coapTcpDecrypt ctx' p raw).1, pkt', raw') :=
    Prod.ext rfl (Except.ok.inj hdec)
  obtain ⟨data, hkeep⟩ := coapTcpDecrypt_keeps ctx' p raw
  have hpkt : pkt' = { p with payload := data } := by
    rw [← hkeep, hrun]
  have hplain : Plain 0 build.options := by
    refine plain_of_parseBody raw' rfl h8 hopts hbody hlen hp ?_
    have hrec := hsame.options
    rwa [hpkt] at hrec
  refine ⟨?_, hplain, ?_⟩
  · -- a frame that is not decrypted keeps ciphertext and HMAC as its payload
    by_contra hmalloc
    have hsameRun := coapTcpDecrypt_of_no_memory p raw h.active' hmalloc
    obtain ⟨p', hp', -, -, hpay, -⟩ := parseBody_plain
      (pkt0.readHeader build.header len (sealedLen build payload)) rfl h8 hopts hbody hlen hplain
    rw [hp] at hp'
    cases hp'
    have hunread : pkt' = p := by
      rw [hrun] at hsameRun
      exact congrArg Prod.fst hsameRun
    have hlength := hsame.payloadLen
    rw [hunread, hpay, List.length_append, hmaclen] at hlength
    dsimp only at hlength
    omega
  · refine (decoded_exlen_iff (sealedLen build payload) build.header.tkl.val build.header.tkl.isLt (by omega)).mp ?_
    rw [hpkt] at hexlen
    dsimp only at hexlen
    rw [(parseBody_frame hp).2, CoapPacket.readHeader] at hexlen
    dsimp only at hexlen
    omega

end RoundTrip

/-- **With a key on both ends every byte of the encoder stays in the buffer and the frame makes the round
trip exactly when it is sealable.** The buffer is handed over empty, with any contents and any size. -/
theorem coapTcpV1_sealed_roundTrip_iff (ctx ctx' : M2mCloudContext) (hpeers : Peers ctx ctx')
    (build : CoapBuildPacket) (pkt pkt0 : CoapPacket) (mem : ℕ → UInt8) (size : ℕ) (hsize : size < 2 ^ 32)
    (hpay : build.payload.isSome ∨ build.buildFunc.isSome) (hcb : StableCallback build)
    (hok : (coapTcpV1Encode ctx build pkt ⟨mem, size, 0⟩).1 = .ok) :
    ((∀ mem' i, size ≤ i → (coapTcpV1Encode ctx build pkt ⟨mem', size, 0⟩).2.2.buffer i = mem' i) ∧
      SealedRoundTrip ctx' pkt0 build (tcpPayload ctx build pkt ⟨mem, size, 0⟩)
        (coapTcpV1Encode ctx build pkt ⟨mem, size, 0⟩).2.2) ↔
    Sealable ctx ctx' build (tcpPayload ctx build pkt ⟨mem, size, 0⟩) size := by
  have hout := fun mem' => coapTcpV1Encode_outcome hpeers.active hpay hcb hok mem'
  obtain ⟨hpos, hopts, h8, -⟩ := hout mem
  have hbuf := fun mem' => (hout mem').2.2.2
  simp only [hbuf]
  generalize tcpPayload ctx build pkt ⟨mem, size, 0⟩ = payload at hpos
  constructor
  · rintro ⟨hwithin, htrip⟩
    obtain ⟨cipher, henc, hmalloc, hseal⟩ := sealedOutcome_of_len htrip.1
    have hcl := pskEncryptData_length henc
    simp only [hseal] at hwithin htrip
    have hmaclen : (sealedMac ctx build payload cipher).length = 32 := hmacBuffer_length _
    -- a HMAC that ends behind the buffer changes the byte there
    have hroom : (sealedHead build payload).length + cipher.length + sessHmacLen ≤ size := by
      by_contra hover
      unfold sessHmacLen at hover
      have hlast := hwithin (fun _ => (sealedMac ctx build payload cipher)[31] + 1)
        ((sealedHead build payload).length + cipher.length + 31) (by omega)
      rw [sealedBuffer_last _ _ _ _ 31 (by omega)] at hlast
      simp at hlast
    obtain ⟨hmalloc', hplain, hexact⟩ := exact_of_roundTrip hpeers h8 hopts henc (by omega) htrip
    exact ⟨⟨cipher, henc⟩, hmalloc, hmalloc', hplain, hexact, by omega⟩
  · rintro ⟨⟨cipher, henc⟩, hmalloc, hmalloc', hplain, hexact, hroom⟩
    have hcl := pskEncryptData_length henc
    rw [← hcl] at hroom
    have hmaclen : (sealedMac ctx build payload cipher).length = sessHmacLen := hmacBuffer_length _
    have hmacpos : 0 < (sealedMac ctx build payload cipher).length := by
      rw [hmaclen]
      decide
    simp only [sealedOutcome_of_room henc hmalloc hroom]
    refine ⟨fun mem' i hi => sealedBuffer_above _ mem' i hmacpos hcl (by omega), ?_⟩
    exact roundTrip_of_exact hpeers (List.ne_nil_of_length_pos hpos) h8 hopts henc hmalloc' hplain hexact
      (by omega) pkt0 _

theorem ones_length : (List.replicate 32 (1 : UInt8)).length = 32 := rfl

theorem pkcs7_encrypt_length (data c : List UInt8)
    (h : (Except.ok (data ++ List.replicate (16 - data.length % 16) (16 - data.length % 16).toUInt8) :
      Except IotcRet (List UInt8)) = .ok c) : c.length = 16 * (data.length / 16 + 1) := by
  cases h
  rw [List.length_append, List.length_replicate]
  omega

theorem pkcs7_decrypt_length (data p : List UInt8)
    (h : (Except.ok (data.take (data.length - (data.getLastD 0).toNat)) : Except IotcRet (List UInt8)) = .ok p) :
    p.length ≤ data.length := by
  cases h
  rw [List.length_take]
  omega

/-- Primitives with a cipher that can be undone: the padding says its own length. -/
def PskCrypto.pkcs7 : PskCrypto where
  aesCbcEncrypt := fun _ _ data => .ok (data ++ List.replicate (16 - data.length % 16) (16 - data.length % 16).toUInt8)
  aesCbcDecrypt := fun _ _ data => .ok (data.take (data.length - (data.getLastD 0).toNat))
  pbkdf2Hmac := fun password _ => .ok password
  hmacCalc := fun _ _ => .ok ⟨List.replicate 32 1, ones_length⟩
  mallocEnc := true
  mallocDec := true
  mallocHmac := true
  encrypt_length := fun _ _ => pkcs7_encrypt_length
  decrypt_length := fun _ _ => pkcs7_decrypt_length

def pkcs7Context : M2mCloudContext := ⟨⟨true, false, List.replicate 32 3, List.replicate 16 4⟩, PskCrypto.pkcs7⟩

theorem pkcs7Context_peers : Peers pkcs7Context pkcs7Context where
  active := ⟨rfl, rfl⟩
  active' := ⟨rfl, rfl⟩
  key := rfl
  salt := rfl
  pbkdf2Hmac := rfl
  hmacCalc := rfl
  decrypts := by
    intro key iv data c h
    cases h
    obtain ⟨k, hk⟩ : ∃ k, 16 - data.length % 16 = k + 1 := ⟨15 - data.length % 16, by omega⟩
    have hlast : ((data ++ List.replicate (k + 1) (k + 1).toUInt8).getLastD 0).toNat = k + 1 := by
      rw [List.replicate_succ', ← List.append_assoc, List.getLastD_concat]
      rw [toNat_toUInt8]
      omega
    show Except.ok _ = Except.ok _
    rw [hk, hlast, List.length_append, List.length_replicate, Nat.add_sub_cancel, List.take_left]

theorem sampleRequest_roundTrip_sealed :
    (∀ mem' i, 128 ≤ i → (coapTcpV1Encode pkcs7Context (sampleRequest 11 [8, 9]) CoapPacket.init
        ⟨mem', 128, 0⟩).2.2.buffer i = mem' i) ∧
      SealedRoundTrip pkcs7Context CoapPacket.init (sampleRequest 11 [8, 9])
        (tcpPayload pkcs7Context (sampleRequest 11 [8, 9]) CoapPacket.init ⟨fun _ => 0, 128, 0⟩)
        (coapTcpV1Encode pkcs7Context (sampleRequest 11 [8, 9]) CoapPacket.init ⟨fun _ => 0, 128, 0⟩).2.2 := by
  refine (coapTcpV1_sealed_roundTrip_iff pkcs7Context pkcs7Context pkcs7Context_peers (sampleRequest 11 [8, 9])
    CoapPacket.init CoapPacket.init (fun _ => 0) 128 (by decide) (.inl rfl) (fun f hf => by cases hf)
    (by decide)).mpr ?_
  exact ⟨⟨[8, 9] ++ List.replicate 14 14, rfl⟩, rfl, ⟨rfl, rfl⟩, ⟨by decide, trivial⟩,
    ⟨by decide, by decide, by decide, by decide⟩, by decide⟩

/-- A buffer of 25 bytes: head and ciphertext fit, and the HMAC is written to the 31 bytes behind it. -/
theorem coapTcpV1Encode_overruns_buffer :
    (coapTcpV1Encode pkcs7Context (sampleRequest 11 [8, 9]) CoapPacket.init ⟨fun _ => 0, 25, 0⟩).1 = .ok ∧
      (coapTcpV1Encode pkcs7Context (sampleRequest 11 [8, 9]) CoapPacket.init ⟨fun _ => 0, 25, 0⟩).2.2.len = 56 ∧
      (coapTcpV1Encode pkcs7Context (sampleRequest 11 [8, 9]) CoapPacket.init ⟨fun _ => 0, 25, 0⟩).2.2.buffer 55 ≠
        0 := by
  decide

end IotConnect.Coap
