import IotConnect.Foundations.ReplayWindow
import IotConnect.LocalControl.Authentication
import IotConnect.LocalControl.Negotiation

/-! # Repeated messages of local control (`local_ctl_coap_api.c`, `seq_num_utils.c`)

The control handler looks at the sequence number inside the decrypted message before it passes the data on to the
device. The service handlers pass their data on without. So a message the control handler has taken is not taken
again until the numbers come round, while a message to a service can be repeated at will. -/
namespace IotConnect.LocalControl
open Bytes Coap Endpoint ReplayWindow Trace
set_option autoImplicit false

def localControlSeqWindow : UInt32 := 30
def iotcSvcIdStrMaxLen : ℕ := 63

/-! ## The sequence number -/

/-- `SeqNumCheckWithoutOverflow`: `isSmall` and `delta`, if the number is in the window. -/
def seqNumCheckWithoutOverflow (curSeq recvSeq window : UInt32) : Option (Bool × UInt32) :=
  if curSeq < recvSeq then
    if recvSeq - curSeq ≤ window then some (false, recvSeq - curSeq) else none
  else if curSeq - recvSeq ≤ window then some (true, curSeq - recvSeq)
  else none

def seqNumCheckWithCurSeqSmall (curSeq recvSeq window : UInt32) : Option (Bool × UInt32) :=
  if recvSeq < curSeq then some (true, curSeq - recvSeq)
  else if recvSeq - curSeq ≤ window then some (false, recvSeq - curSeq)
  else if 0xFFFFFFFF - recvSeq + curSeq + 1 ≤ window then some (true, 0xFFFFFFFF - recvSeq + curSeq + 1)
  else none

def seqNumCheckWithCurSeqBig (curSeq recvSeq window : UInt32) : Option (Bool × UInt32) :=
  if curSeq < recvSeq then some (false, recvSeq - curSeq)
  else if curSeq - recvSeq ≤ window then some (true, curSeq - recvSeq)
  else if 0xFFFFFFFF - curSeq + recvSeq + 1 ≤ window then some (false, 0xFFFFFFFF - curSeq + recvSeq + 1)
  else none

def seqNumWindowMax : UInt32 := 100

def seqNumCheck (curSeq recvSeq window : UInt32) : Option (Bool × UInt32) :=
  if seqNumWindowMax < window ∨ window = 0 then none
  else if recvSeq = curSeq then none
  else if curSeq < window then seqNumCheckWithCurSeqSmall curSeq recvSeq window
  else if curSeq > 0xFFFFFFFF - window then seqNumCheckWithCurSeqBig curSeq recvSeq window
  else seqNumCheckWithoutOverflow curSeq recvSeq window

/-- `recvSeq` and `seqMap` of a client. -/
structure SeqWindow where
  recvSeq : UInt32
  seqMap : UInt32

/-- The end of `SessCoapRecvSeqCheck`. -/
def sessSeqAccept (w : SeqWindow) (recvSeq : UInt32) : Option SeqWindow :=
  match seqNumCheck w.recvSeq recvSeq localControlSeqWindow with
  | none => none
  | some (isSmall, delta) =>
    if localControlSeqWindow < delta then none
    else if isSmall then
      if w.seqMap &&& 1 <<< delta ≠ 0 then none else some { w with seqMap := w.seqMap ||| 1 <<< delta }
    else some ⟨recvSeq, w.seqMap <<< delta ||| 1 <<< delta⟩

theorem seqNumCheck_window {window : UInt32} (hzero : window ≠ 0) (hmax : window ≤ seqNumWindowMax)
    (curSeq recvSeq : UInt32) :
    seqNumCheck curSeq recvSeq window =
      if recvSeq = curSeq then none
      else if behind curSeq recvSeq ≤ window.toNat then some (false, recvSeq - curSeq)
      else if behind recvSeq curSeq ≤ window.toNat then some (true, curSeq - recvSeq)
      else none := by
  have hvalid : ¬ (seqNumWindowMax < window ∨ window = 0) := not_or.mpr ⟨UInt32.not_lt.mpr hmax, hzero⟩
  by_cases hne : recvSeq = curSeq
  · rw [if_pos hne, seqNumCheck, if_neg hvalid, if_pos hne]
  have hround := behind_add_behind hne
  have hcur := curSeq.toNat_lt
  have hrecv := recvSeq.toNat_lt
  have hbehind := behind_eq curSeq recvSeq
  have hne' := mt UInt32.toNat_inj.mp hne
  have hsmall : window.toNat ≤ 100 := UInt32.le_iff_toNat_le.mp hmax
  have hhigh : (0xFFFFFFFF - window).toNat = 2 ^ 32 - 1 - window.toNat :=
    UInt32.toNat_sub_of_le _ _ (UInt32.le_iff_toNat_le.mpr (Nat.le_trans hsmall (by decide)))
  have hdelta (n m : UInt32) : m - n ≤ window ↔ behind n m ≤ window.toNat := UInt32.le_iff_toNat_le
  rw [if_neg hne, seqNumCheck, if_neg hvalid, if_neg hne]
  simp only [seqNumCheckWithCurSeqSmall, seqNumCheckWithCurSeqBig, seqNumCheckWithoutOverflow, wrap_eq_sub,
    hdelta, gt_iff_lt, UInt32.lt_iff_toNat_lt, hhigh]
  split_ifs <;> first | rfl | omega

theorem seqNumCheck_eq (curSeq recvSeq : UInt32) :
    seqNumCheck curSeq recvSeq localControlSeqWindow =
      if recvSeq = curSeq then none
      else if behind curSeq recvSeq ≤ 30 then some (false, recvSeq - curSeq)
      else if behind recvSeq curSeq ≤ 30 then some (true, curSeq - recvSeq)
      else none :=
  seqNumCheck_window (by decide) (by decide) curSeq recvSeq

theorem sessSeqAccept_eq_some {w w' : SeqWindow} {n : UInt32} (h : sessSeqAccept w n = some w') :
    Fresh 30 w.recvSeq w.seqMap n ∧
      w' = if behind w.recvSeq n ≤ 30 then
          ⟨n, w.seqMap <<< UInt32.ofNat (behind w.recvSeq n) ||| 1 <<< UInt32.ofNat (behind w.recvSeq n)⟩
        else ⟨w.recvSeq, w.seqMap ||| 1 <<< UInt32.ofNat (behind n w.recvSeq)⟩ := by
  rw [sessSeqAccept, seqNumCheck_eq] at h
  by_cases hne : n = w.recvSeq
  · rw [if_pos hne] at h
    cases h
  rw [if_neg hne] at h
  by_cases hahead : behind w.recvSeq n ≤ 30
  · simp only [if_pos hahead, Bool.false_eq_true, if_false] at h
    split_ifs at h
    rw [if_pos hahead, ← sub_eq_ofNat]
    exact ⟨⟨hne, .inl hahead⟩, (Option.some.inj h).symm⟩
  rw [if_neg hahead] at h
  by_cases hlate : behind n w.recvSeq ≤ 30
  · have hbit := and_shift_one_eq_zero w.seqMap (show behind n w.recvSeq < 32 by omega)
    rw [← sub_eq_ofNat] at hbit
    simp only [if_pos hlate, if_true] at h
    split_ifs at h with hdelta hset
    rw [if_neg hahead, ← sub_eq_ofNat]
    exact ⟨⟨hne, .inr ⟨hlate, hbit.mp (not_not.mp hset)⟩⟩, (Option.some.inj h).symm⟩
  · rw [if_neg hlate] at h
    cases h

/-! ## The handlers -/

-- the members of an array, when the object is one
variable (crypto : SessCrypto) (J : JsonAdapter) (items : J.Obj → Option (List J.Obj))
  (K : (len : ℕ) → (password salt : List UInt8) → List UInt8)

structure HandlerEnv where
  /-- The allocations of `ParseE2eCtlMsg` and for the response of a service. -/
  mem : Bool
  mngr : SessMngrEnv

/-- The number `SessCoapRecvSeqCheck` finds in a message. -/
def sessCoapRecvSeq (payloadJson : J.Obj) : Option UInt32 :=
  match (J.getObj payloadJson "seq").bind J.int with
  | none => none
  | some seq => if 0 ≤ seq ∧ seq ≤ 0xFFFFFFFF then some (UInt32.ofNat seq.toNat) else none

/-- `E2eCtrlMsgProcess` calls the device to put: the first of the data has data itself. -/
def e2eCtrlMsgPuts (req : J.Obj) : Bool :=
  match (J.getObj req "data").bind items with
  | some (item :: _) => (J.getObj item "data").isSome
  | _ => false

/-- `LocalCtlSvcCoapHandler` and `LocalCtlSvcGetCoapHandler` call the device to put. A payload that is no JSON is
only logged. -/
def localCtlSvcPuts (mem : Bool) (inv : Invocation) : Bool :=
  ((coapSingleOption inv.msg.packet (bufferRaw inv.buf) coapOptionTypeUriPath).any fun svcId =>
    (cString svcId).length < iotcSvcIdStrMaxLen) && mem && inv.msg.packet.header.code = coapMethodTypePost

def localCtlCoapControlHandler (payload : List UInt8) (w : SeqWindow) : Option (UInt32 × SeqWindow × Bool) :=
  match iotcJsonParseWithLen J payload with
  | none => none
  | some payloadJson =>
    match sessCoapRecvSeq J payloadJson with
    | none => none
    | some seq => (sessSeqAccept w seq).map fun w => (seq, w, e2eCtrlMsgPuts J items payloadJson)

/-! ## The system -/

/-- The windows are those of the clients with the session ids. -/
structure ReplayState where
  ctx : LocalControlContext
  windows : List UInt8 → SeqWindow

/-- A call of the device to put, with the session and the ciphertext it is for. -/
structure PutRecord where
  session : List UInt8
  cipher : Option (List UInt8)
deriving DecidableEq

/-- The sequence numbers the control handler has accepted and the calls of the device, the last ones first. -/
structure ReplayLog where
  state : ReplayState
  accepted : List (List UInt8 × UInt32)
  puts : List PutRecord

/-- The ciphertext in a received message: the payload, decoded from base64. -/
def receivedCipher (buf : CoapBuffer) : Option (List UInt8) :=
  match coapUdpDecode CoapPacket.init (bufferRaw buf) with
  | .error _ => none
  | .ok pkt => crypto.base64Decode ((bufferRaw buf).read pkt.payload)

inductive ReplayEvent
  | packet (env : SessEnv) (buf : CoapBuffer) (henv : HandlerEnv)
  /-- Clients expire or are removed. -/
  | table (ctx : LocalControlContext)

/-- The session manager makes a client, with a window of its own. A request without `sn1`, on which it reads
through a null pointer, makes none. -/
def sessMngrCreates (env : SessEnv) (henv : HandlerEnv) (inv : Invocation) (ctx : LocalControlContext) :
    Option LocalControlClient × LocalControlContext :=
  match sessMngrChecked J ⟨inv.msg.packet, bufferRaw inv.buf, env.addr⟩ with
  | none => (none, ctx)
  | some (puuid, reqJson) => createLocalCtlClient J K henv.mngr ctx puuid env.addr reqJson

def ReplayState.handle (s : ReplayState) (env : SessEnv) (henv : HandlerEnv) (cipher : Option (List UInt8))
    (inv : Invocation) : ReplayState × Option (List UInt8 × UInt32) × Option PutRecord :=
  match inv.handler, inv.msg.client with
  | .search, _ => (s, none, none)
  | .sessMngr, _ =>
    match sessMngrCreates J K env henv inv s.ctx with
    | (none, ctx) => ({ s with ctx := ctx }, none, none)
    | (some client, ctx) =>
      (⟨ctx, Function.update s.windows client.sessId.val ⟨client.recvSeq, 0⟩⟩, none, none)
  | _, none => (s, none, none)
  | .control, some client =>
    match localCtlCoapControlHandler J items inv.payload (s.windows client.sessId.val) with
    | none => (s, none, none)
    | some (seq, w, puts) =>
      ({ s with windows := Function.update s.windows client.sessId.val w }, some (client.sessId.val, seq),
        if puts then some ⟨client.sessId.val, cipher⟩ else none)
  | _, some client => (s, none, if localCtlSvcPuts henv.mem inv then some ⟨client.sessId.val, cipher⟩ else none)

def replayStep (p : ReplayLog) : ReplayEvent → ReplayLog
  | .packet env buf henv =>
    let (invoked, ctx) := localCtlMsgRecv crypto env p.state.ctx buf
    match invoked with
    | none => { p with state := { p.state with ctx := ctx } }
    | some inv =>
      let (s, accepted, put) := ReplayState.handle J items K { p.state with ctx := ctx } env henv
        (receivedCipher crypto buf) inv
      ⟨s, accepted.toList ++ p.accepted, put.toList ++ p.puts⟩
  | .table ctx => { p with state := { p.state with ctx := ctx } }

/-! ## A session -/

def plainOf (key cipher : List UInt8) : Option (List UInt8) :=
  crypto.gcmDecrypt key (cipher.take localCtlGcmIvLen)
    ((cipher.drop localCtlGcmIvLen).take (cipher.length - localCtlGcmIvLen - localCtlGcmTagLen))
    (cipher.drop (cipher.length - localCtlGcmTagLen))

def cipherSeq (key cipher : List UInt8) : Option UInt32 :=
  ((plainOf crypto key cipher).bind (iotcJsonParseWithLen J)).bind (sessCoapRecvSeq J)

def acceptedOf (sessId : List UInt8) (accepted : List (List UInt8 × UInt32)) : List UInt32 :=
  accepted.filterMap fun a => if a.1 = sessId then some a.2 else none

/-- The ciphertexts of a session for which the device was called to put. -/
def putsOf (sessId : List UInt8) (puts : List PutRecord) : List (List UInt8) :=
  puts.filterMap fun r => if r.session = sessId then r.cipher else none

/-- A message that an authenticated ciphertext of the session is in calls no service to put, the key of the session is
`key` at the control handler, and no other client gets its session id. -/
def Guarded (sessId key : List UInt8) (p : ReplayLog) : ReplayEvent → Prop
  | .packet env buf henv =>
    ∀ inv, (localCtlMsgRecv crypto env p.state.ctx buf).1 = some inv →
      (∀ client, inv.msg.client = some client → client.sessId.val = sessId →
        (receivedCipher crypto buf).isSome →
          (inv.handler = .svc ∨ inv.handler = .svcGet → localCtlSvcPuts henv.mem inv = false) ∧
          (inv.handler = .control → client.transKey = key)) ∧
      (inv.handler = .sessMngr → ∀ client, (sessMngrCreates J K env henv inv
        (localCtlMsgRecv crypto env p.state.ctx buf).2).1 = some client → client.sessId.val ≠ sessId)
  | .table _ => True

variable {crypto J items K} {sessId key : List UInt8}

theorem sessSeqAccept_window {start n : UInt32} {w w' : SeqWindow} {accepted : List UInt32}
    (h : WindowOver 30 start w.recvSeq w.seqMap accepted) (hadv : (progress start accepted).2 < 2 ^ 31)
    (haccept : sessSeqAccept w n = some w') : WindowOver 30 start w'.recvSeq w'.seqMap (n :: accepted) := by
  obtain ⟨hfresh, hnext⟩ := sessSeqAccept_eq_some haccept
  by_cases hahead : behind w.recvSeq n ≤ 30
  · have hd : behind w.recvSeq n < 32 := by omega
    rw [hnext, if_pos hahead]
    apply h.ahead (by omega) (by decide) hfresh hahead
    intro k hk hk30
    rw [bit_or, bit_shiftLeft _ hd (by omega), bit_shift_one hd (by omega)]
    rcases Nat.lt_trichotomy k (behind w.recvSeq n) with hlt | heq | hgt
    · simp [Nat.not_le.mpr hlt, Nat.ne_of_lt hlt, Nat.not_lt.mpr (Nat.le_of_lt hlt)]
    · simp [heq]
    · simp [hgt, Nat.le_of_lt hgt, Nat.ne_of_gt hgt]
  · have hlate := (hfresh.2.resolve_left hahead).1
    rw [hnext, if_neg hahead]
    apply h.late (by omega) (by decide) hfresh hahead
    intro k hk hk30
    rw [bit_or, bit_shift_one (by omega) (by omega)]

/-! ## One message -/

theorem plainOf_append (key : List UInt8) {iv data tag : List UInt8} (hiv : iv.length = localCtlGcmIvLen)
    (htag : tag.length = localCtlGcmTagLen) :
    plainOf crypto key (iv ++ data ++ tag) = crypto.gcmDecrypt key iv data tag := by
  have hlen : (iv ++ data ++ tag).length = localCtlGcmIvLen + data.length + localCtlGcmTagLen := by
    rw [List.length_append, List.length_append, hiv, htag]
  have hhead : (iv ++ data ++ tag).take localCtlGcmIvLen = iv := by
    rw [List.append_assoc, ← hiv, List.take_left]
  have htail : (iv ++ data ++ tag).drop localCtlGcmIvLen = data ++ tag := by
    rw [List.append_assoc, ← hiv, List.drop_left]
  have hlast : (iv ++ data ++ tag).drop ((iv ++ data ++ tag).length - localCtlGcmTagLen) = tag := by
    rw [hlen, Nat.add_sub_cancel, ← hiv, ← List.length_append, List.drop_left]
  have hmid : (data ++ tag).take ((iv ++ data ++ tag).length - localCtlGcmIvLen - localCtlGcmTagLen) = data := by
    rw [hlen, show localCtlGcmIvLen + data.length + localCtlGcmTagLen - localCtlGcmIvLen - localCtlGcmTagLen =
      data.length by omega, List.take_left]
  rw [plainOf, hhead, htail, hlast, hmid]

theorem invoked_cipher {env : SessEnv} {ctx : LocalControlContext} {buf : CoapBuffer} {inv : Invocation}
    {c : List UInt8} (h : (localCtlMsgRecv crypto env ctx buf).1 = some inv) (hopen : ¬ inv.handler.isOpen)
    (hc : receivedCipher crypto buf = some c) :
    ∃ client, inv.msg.client = some client ∧ plainOf crypto client.transKey c = some inv.payload := by
  have hsize : buf.len < buf.size := by
    by_contra hsize
    rw [localCtlMsgRecv, if_pos hsize] at h
    cases h
  cases hdecode : coapUdpDecode CoapPacket.init (bufferRaw buf) with
  | error ret =>
    rw [receivedCipher, hdecode] at hc
    cases hc
  | ok pkt =>
    rw [receivedCipher, hdecode] at hc
    dsimp only at hc
    have hwhite : coapUriWhiteListMatch pkt (bufferRaw buf) localCtlWhiteList = false := by
      by_contra hwhite
      exact hopen (recv_open hsize hdecode (Bool.not_eq_false _ ▸ hwhite) h)
    rcases @recv_client crypto env ctx buf pkt hsize hdecode hwhite with ⟨hnone, -⟩ | hfound
    · rw [hnone] at h
      cases h
    obtain ⟨value, client, -, -, -, hrecv⟩ := hfound
    have hplain : localCtlSessMsgPlainCheck ⟨pkt, false, some client⟩ = false := by
      by_contra hplain
      have hempty : pkt.payload.data = none ∨ pkt.payload.len = 0 := by
        cases hdata : pkt.payload.data with
        | none => exact .inl rfl
        | some off => exact .inr (by simpa [localCtlSessMsgPlainCheck, hdata] using hplain)
      rw [read_of_empty hempty, crypto.base64Decode_nil] at hc
      cases hc
    rw [hrecv] at h
    obtain ⟨client', iv, data, tag, -, hbase64, hiv, htag, hgcm, hclient⟩ := recv_cipher rfl hplain h
    refine ⟨client', hclient, ?_⟩
    rw [← Option.some.inj (hbase64.symm.trans hc), plainOf_append client'.transKey hiv htag]
    exact hgcm

variable (J items K) in
theorem handle_cases (s : ReplayState) (env : SessEnv) (henv : HandlerEnv) (cipher : Option (List UInt8))
    (inv : Invocation)
    (hquiet : ∀ client, inv.msg.client = some client → client.sessId.val = sessId → cipher.isSome →
      inv.handler = .svc ∨ inv.handler = .svcGet → localCtlSvcPuts henv.mem inv = false)
    (hother : inv.handler = .sessMngr → ∀ client,
      (sessMngrCreates J K env henv inv s.ctx).1 = some client → client.sessId.val ≠ sessId) :
    ((s.handle J items K env henv cipher inv).1.windows sessId = s.windows sessId ∧
      acceptedOf sessId (s.handle J items K env henv cipher inv).2.1.toList = [] ∧
      putsOf sessId (s.handle J items K env henv cipher inv).2.2.toList = []) ∨
    ∃ client seq w puts, inv.handler = .control ∧ inv.msg.client = some client ∧ client.sessId.val = sessId ∧
      localCtlCoapControlHandler J items inv.payload (s.windows sessId) = some (seq, w, puts) ∧
      (s.handle J items K env henv cipher inv).1.windows sessId = w ∧
      acceptedOf sessId (s.handle J items K env henv cipher inv).2.1.toList = [seq] ∧
      putsOf sessId (s.handle J items K env henv cipher inv).2.2.toList = if puts then cipher.toList else [] := by
  -- a service passes nothing on that counts for this session
  have hservice : inv.handler = .svc ∨ inv.handler = .svcGet → ∀ client, inv.msg.client = some client →
      putsOf sessId (if localCtlSvcPuts henv.mem inv then some ⟨client.sessId.val, cipher⟩ else none : Option PutRecord).toList
        = [] := by
    intro hsvc client hclient
    split_ifs with hputs
    · by_cases hsess : client.sessId.val = sessId
      · have hnone : cipher = none := by
          by_contra hsome
          have hno := hquiet client hclient hsess (Option.isSome_iff_ne_none.mpr hsome) hsvc
          exact absurd (hno ▸ hputs) Bool.false_ne_true
        simp [putsOf, hnone]
      · simp [putsOf, hsess]
    · rfl
  unfold ReplayState.handle
  cases hhandler : inv.handler with
  | search => exact .inl ⟨rfl, rfl, rfl⟩
  | sessMngr =>
    left
    have hnew := hother hhandler
    dsimp only
    rcases hcreate : sessMngrCreates J K env henv inv s.ctx with ⟨client?, ctx⟩
    rw [hcreate] at hnew
    cases client? with
    | none => exact ⟨rfl, rfl, rfl⟩
    | some client => exact ⟨Function.update_of_ne (hnew client rfl).symm _ _, rfl, rfl⟩
  | svc =>
    left
    cases hclient : inv.msg.client with
    | none => exact ⟨rfl, rfl, rfl⟩
    | some client => exact ⟨rfl, rfl, hservice (by simp [hhandler]) client hclient⟩
  | svcGet =>
    left
    cases hclient : inv.msg.client with
    | none => exact ⟨rfl, rfl, rfl⟩
    | some client => exact ⟨rfl, rfl, hservice (by simp [hhandler]) client hclient⟩
  | control =>
    cases hclient : inv.msg.client with
    | none => exact .inl ⟨rfl, rfl, rfl⟩
    | some client =>
      dsimp only
      cases hresult : localCtlCoapControlHandler J items inv.payload (s.windows client.sessId.val) with
      | none => exact .inl ⟨rfl, rfl, rfl⟩
      | some result =>
        by_cases hsess : client.sessId.val = sessId
        · right
          subst hsess
          obtain ⟨seq, w, puts⟩ := result
          refine ⟨client, seq, w, puts, rfl, rfl, rfl, hresult, Function.update_self _ _ _, ?_, ?_⟩
          · simp [acceptedOf]
          · cases puts <;> cases cipher <;> simp [putsOf]
        · left
          refine ⟨Function.update_of_ne (Ne.symm hsess) _ _, ?_, ?_⟩
          · simp [acceptedOf, hsess]
          · cases result.2.2 <;> simp [putsOf, hsess]

theorem localCtlCoapControlHandler_eq_some {payload : List UInt8} {w w' : SeqWindow} {seq : UInt32} {puts : Bool}
    (h : localCtlCoapControlHandler J items payload w = some (seq, w', puts)) :
    (iotcJsonParseWithLen J payload).bind (sessCoapRecvSeq J) = some seq ∧ sessSeqAccept w seq = some w' := by
  unfold localCtlCoapControlHandler at h
  split at h
  · cases h
  · rename_i payloadJson hparse
    split at h
    · cases h
    · rename_i n hseq
      obtain ⟨w'', haccept, heq⟩ := Option.map_eq_some_iff.mp h
      cases heq
      exact ⟨by rw [hparse]; exact hseq, haccept⟩

/-! ## Whole runs -/

/-- The window of the session and the ciphertexts the device was called for, which have different numbers. -/
structure SessionOk (crypto : SessCrypto) (J : JsonAdapter) (sessId key : List UInt8) (start : UInt32) (p : ReplayLog) :
    Prop where
  window : WindowOver 30 start (p.state.windows sessId).recvSeq (p.state.windows sessId).seqMap
    (acceptedOf sessId p.accepted)
  puts : ((putsOf sessId p.puts).map (cipherSeq crypto J key)).Sublist ((acceptedOf sessId p.accepted).map some)

theorem acceptedOf_append (sessId : List UInt8) (l l' : List (List UInt8 × UInt32)) :
    acceptedOf sessId (l ++ l') = acceptedOf sessId l ++ acceptedOf sessId l' := List.filterMap_append

theorem putsOf_append (sessId : List UInt8) (l l' : List PutRecord) :
    putsOf sessId (l ++ l') = putsOf sessId l ++ putsOf sessId l' := List.filterMap_append

theorem SessionOk.packet {start : UInt32} {p : ReplayLog} (h : SessionOk crypto J sessId key start p) (env : SessEnv)
    (buf : CoapBuffer) (henv : HandlerEnv) (hguard : Guarded crypto J K sessId key p (.packet env buf henv))
    (hadv : (progress start (acceptedOf sessId p.accepted)).2 < 2 ^ 31) :
    SessionOk crypto J sessId key start (replayStep crypto J items K p (.packet env buf henv)) := by
  cases hinv : (localCtlMsgRecv crypto env p.state.ctx buf).1 with
  | none =>
    simp only [replayStep, hinv]
    exact ⟨h.window, h.puts⟩
  | some inv =>
    obtain ⟨hsession, hmngr⟩ := hguard inv hinv
    simp only [replayStep, hinv]
    rcases handle_cases J items K ⟨(localCtlMsgRecv crypto env p.state.ctx buf).2, p.state.windows⟩ env henv
        (receivedCipher crypto buf) inv (fun client hc hs hsome => (hsession client hc hs hsome).1) hmngr with
      ⟨hw, hacc, hput⟩ | ⟨client, seq, w, puts, hhandler, hclient, hsess, hresult, hw, hacc, hput⟩
    · constructor
      · rw [acceptedOf_append, hacc, hw]
        exact h.window
      · rw [acceptedOf_append, putsOf_append, hacc, hput]
        exact h.puts
    · obtain ⟨hseq, haccept⟩ := localCtlCoapControlHandler_eq_some hresult
      constructor
      · rw [acceptedOf_append, hacc, hw]
        exact sessSeqAccept_window h.window hadv haccept
      · rw [acceptedOf_append, putsOf_append, hacc, hput]
        cases hcipher : receivedCipher crypto buf with
        | none => simpa using List.Sublist.cons (some seq) h.puts
        | some c =>
          cases puts with
          | false => simpa using List.Sublist.cons (some seq) h.puts
          | true =>
            -- the number is that in the plaintext of the ciphertext
            have hkey : client.transKey = key := (hsession client hclient hsess (by rw [hcipher]; rfl)).2 hhandler
            have hopen : ¬ inv.handler.isOpen := by
              rw [hhandler]
              decide
            obtain ⟨client', hclient', hplain⟩ := invoked_cipher hinv hopen hcipher
            have hsame : client' = client := Option.some.inj (hclient'.symm.trans hclient)
            have hnumber : cipherSeq crypto J key c = some seq := by
              rw [cipherSeq, ← hkey, ← hsame, hplain]
              exact hseq
            simpa [hnumber] using List.Sublist.cons_cons (some seq) h.puts

theorem replayStep_progress (start : UInt32) (p : ReplayLog) (e : ReplayEvent) :
    (progress start (acceptedOf sessId p.accepted)).2 ≤
      (progress start (acceptedOf sessId (replayStep crypto J items K p e).accepted)).2 := by
  cases e with
  | table ctx => exact Nat.le_refl _
  | packet env buf henv =>
    cases hinv : (localCtlMsgRecv crypto env p.state.ctx buf).1 with
    | none =>
      simp only [replayStep, hinv]
      exact Nat.le_refl _
    | some inv =>
      simp only [replayStep, hinv, acceptedOf_append]
      generalize (ReplayState.handle J items K _ env henv (receivedCipher crypto buf) inv).2.1 = accepted
      cases accepted with
      | none => exact Nat.le_refl _
      | some a =>
        by_cases hsess : a.1 = sessId
        · simpa [acceptedOf, hsess] using progress_le start a.2 (acceptedOf sessId p.accepted)
        · simp [acceptedOf, hsess]

def SessionUntilRound (crypto : SessCrypto) (J : JsonAdapter) (sessId key : List UInt8) (start : UInt32)
    (p : ReplayLog) : Prop :=
  (progress start (acceptedOf sessId p.accepted)).2 < 2 ^ 31 → SessionOk crypto J sessId key start p

theorem replayStep_session {start : UInt32} (p : ReplayLog) (e : ReplayEvent)
    (he : Guarded crypto J K sessId key p e) (h : SessionUntilRound crypto J sessId key start p) :
    SessionUntilRound crypto J sessId key start (replayStep crypto J items K p e) := by
  intro hadv
  have hbefore := Nat.lt_of_le_of_lt (replayStep_progress start p e) hadv
  cases e with
  | packet env buf henv => exact (h hbefore).packet env buf henv he hbefore
  | table ctx => exact ⟨(h hbefore).window, (h hbefore).puts⟩

/-- From a new session on, the device is called at most once for each ciphertext of the session, as long as no service is
called to put for one of them and its numbers have not come round. -/
theorem control_puts_at_most_once (crypto : SessCrypto) (J : JsonAdapter) (items : J.Obj → Option (List J.Obj))
    (K : (len : ℕ) → (password salt : List UInt8) → List UInt8) (sessId key : List UInt8) (s : ReplayState)
    (hnew : (s.windows sessId).seqMap = 0) (es : List ReplayEvent)
    (hguard : Along (replayStep crypto J items K) (Guarded crypto J K sessId key) ⟨s, [], []⟩ es)
    (hadv : (progress (s.windows sessId).recvSeq
      (acceptedOf sessId (run (replayStep crypto J items K) ⟨s, [], []⟩ es).accepted)).2 < 2 ^ 31) :
    (putsOf sessId (run (replayStep crypto J items K) ⟨s, [], []⟩ es).puts).Nodup := by
  have hstart : SessionUntilRound crypto J sessId key (s.windows sessId).recvSeq ⟨s, [], []⟩ := by
    intro _
    refine ⟨windowOver_start 30 (by decide) _ fun k _ _ => ?_, List.Sublist.slnil⟩
    rw [hnew]
    exact Nat.zero_testBit k
  have hsession := run_invariant replayStep_session hguard hstart hadv
  have hnumbers : ((acceptedOf sessId (run (replayStep crypto J items K) ⟨s, [], []⟩ es).accepted).map some).Nodup :=
    (hsession.window.nodup.of_append_left).map (Option.some_injective _)
  exact (hnumbers.sublist hsession.puts).of_map _

/-! ## Two messages of one session -/

/-- A POST of the session that is all zeros, whose payload is encrypted data of one byte. -/
def samplePost (msgId : UInt8) (uri : String) (plain : UInt8) : CoapBuffer :=
  let bytes := [0x40, 0x02, 0x00, msgId, 0xB0 + (ascii uri).length.toUInt8] ++ ascii uri ++
    [0xED, 0x06, 0xE8, 0x03] ++ List.replicate 16 0 ++ 0xFF :: (List.replicate 12 1 ++ [plain] ++ List.replicate 16 2)
  ⟨Memory.ofList bytes 0, 128, bytes.length⟩

def sampleJson : JsonAdapter :=
  ⟨UInt8, List.head?, fun n _ => some n, fun n => some (Rat.ofInt n.toNat), fun _ => 0, fun _ => none⟩

def sampleHandlerEnv : HandlerEnv where
  mem := true
  mngr :=
    { client := { mallocClient := true, strDup := true, mallocKey := true, mallocNode := true, createTime := 0
                  curTime := 0, recvSeq := 0, sessId := Block.zero 16, authCode := none, transKdf := true
                  authKdf := true }
      sn2 := Block.zero _, kdfOk := true, keyLeft := [], respJson := true }

def zeroSession : List UInt8 := List.replicate 32 0x30

def sampleReplayStep : ReplayLog → ReplayEvent → ReplayLog :=
  replayStep sampleSessCrypto sampleJson (fun n => some [n]) fun len _ _ => List.replicate len 7

def sampleStart : ReplayLog := ⟨⟨sampleClients, fun _ => ⟨0, 0⟩⟩, [], []⟩

def samplePosts (uri : String) : List ReplayEvent :=
  [.packet sampleSessEnv (samplePost 1 uri 7) sampleHandlerEnv,
    .packet sampleSessEnv (samplePost 2 uri 7) sampleHandlerEnv]

theorem samplePost_guarded (p : ReplayLog) (msgId : UInt8)
    (hhandler : (localCtlMsgRecv sampleSessCrypto sampleSessEnv p.state.ctx (samplePost msgId "e2eCtrl" 7)).1.all
      (fun inv => inv.handler = .control ∧ inv.msg.client.all fun c => c.transKey = List.replicate 16 7) = true) :
    Guarded sampleSessCrypto sampleJson (fun len _ _ => List.replicate len 7) zeroSession (List.replicate 16 7) p
      (.packet sampleSessEnv (samplePost msgId "e2eCtrl" 7) sampleHandlerEnv) := by
  intro inv hinv
  rw [hinv, Option.all_some, decide_eq_true_iff] at hhandler
  constructor
  · intro client hclient _ _
    have hkey := hhandler.2
    rw [hclient, Option.all_some] at hkey
    refine ⟨fun hsvc => ?_, fun _ => of_decide_eq_true hkey⟩
    rw [hhandler.1] at hsvc
    rcases hsvc with hsvc | hsvc <;> cases hsvc
  · intro hmngr
    rw [hhandler.1] at hmngr
    cases hmngr

/-- A repeated message to the control resource is passed on once. -/
theorem control_puts_once :
    putsOf zeroSession (run sampleReplayStep sampleStart (samplePosts "e2eCtrl")).puts =
      [List.replicate 12 1 ++ [7] ++ List.replicate 16 2] ∧
    (putsOf zeroSession (run sampleReplayStep sampleStart (samplePosts "e2eCtrl")).puts).Nodup := by
  refine ⟨by decide, ?_⟩
  apply control_puts_at_most_once sampleSessCrypto sampleJson (fun n => some [n]) (fun len _ _ => List.replicate len 7)
    zeroSession (List.replicate 16 7) sampleStart.state rfl
  · refine ⟨samplePost_guarded _ 1 (by decide), samplePost_guarded _ 2 (by decide), trivial⟩
  · decide

/-- A repeated message to a service is passed on twice. -/
theorem service_puts_twice :
    putsOf zeroSession (run sampleReplayStep sampleStart (samplePosts "switch")).puts =
      [List.replicate 12 1 ++ [7] ++ List.replicate 16 2, List.replicate 12 1 ++ [7] ++ List.replicate 16 2] ∧
    ¬ (putsOf zeroSession (run sampleReplayStep sampleStart (samplePosts "switch")).puts).Nodup := by
  have hputs : putsOf zeroSession (run sampleReplayStep sampleStart (samplePosts "switch")).puts =
      [List.replicate 12 1 ++ [7] ++ List.replicate 16 2, List.replicate 12 1 ++ [7] ++ List.replicate 16 2] := by
    decide
  refine ⟨hputs, ?_⟩
  rw [hputs]
  decide

end IotConnect.LocalControl
