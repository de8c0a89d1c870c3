import IotConnect.Cloud.Control
import Mathlib.Data.List.Range
import Mathlib.Data.List.Nodup

/-! # Sequence numbers of a connection

The messages of one connection count up from the counter of the link as long as every number that is taken from
it leaves in a message, and no message leaves with a number of another origin. Reports carry zeros, and an
immediate control response uses the counter twice. -/
namespace IotConnect.Cloud.Link
open Bytes Coap Trace Transport
set_option autoImplicit false

def CtlSent.seq : CtlSent → List UInt8
  | .request seq => seq
  | .report seq => seq
  | .response r => (r.value coapOptionTypeSeqNumId).getD []

def seqStep (p : CtlState × List (List UInt8)) (e : CtlEvent) : CtlState × List (List UInt8) :=
  ((ctlOutcome p.1 e).1, p.2 ++ ((ctlOutcome p.1 e).2.map CtlSent.seq).toList)

def Consecutive (seqs : List (List UInt8)) : Prop :=
  (∀ v ∈ seqs, v.length = 4) ∧ seqs.IsChain fun v w => ofBytes w = (ofBytes v + 1) % 2 ^ 32

/-- A request that steps the counter is sent with its number, no report is sent, no control request is answered
at once, and an answer the device gives later is sent if it is encoded. -/
def Steady (s : CtlState) : CtlEvent → Prop
  | .request env =>
    env.callocOps = true →
      env.mallocSeq = true ∧ env.reqJson = true ∧ env.send.encodes = true ∧ env.send.links = true
  | .report reportJson env => ¬ (reportJson = true ∧ env.encodes = true ∧ env.links = true)
  | .receive heap base len ctx lock env =>
    ∀ req raw, controlRequest ctx lock (rawAt heap base len) = some (req, raw) →
      env.respMem = false ∨ ctlRespOptions s.access req raw = none
  | .other _ => True
  | .answer _ env => env.encodes = true → env.links = true

/-! ## One message -/

/-- Nothing has happened to the counter, or its value was sent and it was stepped. -/
def Counts (seq seq' : UInt32) (sent : Option (List UInt8)) : Prop :=
  (seq' = seq ∧ sent = none) ∨ (seq' = seq + 1 ∧ sent = some (htonl seq))

theorem htonl_length (seq : UInt32) : (htonl seq).length = 4 := toBytes_length 4 seq.toNat

theorem ofBytes_htonl (seq : UInt32) : ofBytes (htonl seq) = seq.toNat :=
  ofBytes_toBytes seq.toNat_lt

theorem coapEndpointSendPacket_null (env : SendEnv) (m : SeqMsg) :
    coapEndpointSendPacket env false m =
      (m.seq, if env.encodes && env.links then some m.option.sent else none) := by
  cases henc : env.encodes with
  | false => simp [coapEndpointSendPacket, henc]
  | true =>
    simp [coapEndpointSendPacket, henc, transSessMsgCorNodeProcess, cloudSessSendUpdateSeqProcess]

theorem coapEndpointSendPacket_addr (env : SendEnv) (seq : UInt32) (data : List UInt8) :
    coapEndpointSendPacket env true ⟨seq, .bytes data⟩ =
      if env.encodes = true ∧ data.length = 4 then (seq + 1, if env.links then some (htonl seq) else none)
      else (seq, none) := by
  cases henc : env.encodes with
  | false => simp [coapEndpointSendPacket, henc]
  | true =>
    by_cases hlen : data.length = 4
    · simp [coapEndpointSendPacket, henc, transSessMsgCorNodeProcess, cloudSessSendUpdateSeqProcess, hlen,
        BuildData.sent]
    · simp [coapEndpointSendPacket, henc, transSessMsgCorNodeProcess, cloudSessSendUpdateSeqProcess, hlen]

variable {s : CtlState}

theorem m2mCloudSendRequest_counts {env : RequestEnv} (h : Steady s (.request env)) :
    Counts s.seq (m2mCloudSendRequest env s.seq).1 (m2mCloudSendRequest env s.seq).2 := by
  cases hops : env.callocOps with
  | false =>
    left
    simp [m2mCloudSendRequest, hops]
  | true =>
    obtain ⟨hmem, hjson, henc, hlink⟩ := h hops
    right
    simp [m2mCloudSendRequest, hops, hmem, hjson, coapEndpointSendPacket_null, henc, hlink, BuildData.sent]

variable {env : SendEnv}

theorem m2mCloudReportMessage_counts {reportJson : Bool} (h : Steady s (.report reportJson env)) :
    Counts s.seq (m2mCloudReportMessage reportJson env s.seq).1 (m2mCloudReportMessage reportJson env s.seq).2 := by
  left
  cases hjson : reportJson with
  | false => simp [m2mCloudReportMessage]
  | true =>
    have hnot : ¬ (env.encodes = true ∧ env.links = true) := fun hsend => h ⟨hjson, hsend⟩
    simp only [m2mCloudReportMessage, coapEndpointSendPacket_null]
    simp [hnot]

variable {options : List (UInt16 × List UInt8)}

theorem lookup_seq (h : ∀ o ∈ options, o.1 ≠ coapOptionTypeSeqNumId) (bytes : List UInt8) :
    (options ++ [(coapOptionTypeSeqNumId, bytes)]).lookup coapOptionTypeSeqNumId = some bytes := by
  induction options with
  | nil => simp
  | cons o options ih =>
    have ho := h o List.mem_cons_self
    rw [List.cons_append, List.lookup_cons, beq_false_of_ne ho.symm]
    exact ih fun o' ho' => h o' (List.mem_cons_of_mem o ho')

theorem coapServerSendResp_counts (henv : env.encodes = true → env.links = true) (req : CoapPacket)
    (hopts : ∀ o ∈ options, o.1 ≠ coapOptionTypeSeqNumId)
    (data : List UInt8) (seq : UInt32) :
    Counts seq (coapServerSendResp env req options data seq).1
      ((coapServerSendResp env req options data seq).2.map fun r => CtlSent.seq (.response r)) := by
  by_cases htkl : coapTokenMaxLen < req.header.tkl.val
  · left
    simp [coapServerSendResp, htkl]
  · by_cases hsend : env.encodes = true ∧ data.length = 4
    · right
      simp only [coapServerSendResp, htkl, if_false, coapEndpointSendPacket_addr, hsend, and_self, if_true,
        henv hsend.1, Option.map_some, CtlSent.seq, CtlResponse.value, lookup_seq hopts, Option.getD_some]
    · left
      simp only [coapServerSendResp, htkl, if_false, coapEndpointSendPacket_addr, hsend, Option.map_none, and_self]

theorem extractResponseOptions_seq {access : List UInt8} {node : CoapResponeNode} {heap : ℕ → UInt8}
    {seqId : List UInt8}
    (h : extractResponseOptions access node heap = some (options, seqId)) :
    ∀ o ∈ options, o.1 ≠ coapOptionTypeSeqNumId := by
  unfold extractResponseOptions at h
  split at h
  · obtain ⟨rfl, -⟩ := Prod.mk.inj (Option.some.inj h)
    simp [coapOptionTypeAccessTokenId, coapOptionTypeReqId, coapOptionTypeDevId, coapOptionTypeUserId,
      coapOptionTypeSeqNumId]
  · cases h

theorem m2mCloudResponseMessage_counts {env : AnswerEnv} (henv : env.encodes = true → env.links = true)
    (dataArray : List ResultItem) (s : CtlState) :
    Counts s.seq (m2mCloudResponseMessage env dataArray s).1.seq
      ((m2mCloudResponseMessage env dataArray s).2.1.map fun r => CtlSent.seq (.response r)) := by
  have henv' (json : JsonPtr) : (env.toSendEnv.payload json).encodes = true → env.links = true := by
    intro h
    exact henv (Bool.and_eq_true_iff.mp h).1
  unfold m2mCloudResponseMessage
  split
  · exact Or.inl ⟨rfl, rfl⟩
  split
  · exact Or.inl ⟨rfl, rfl⟩
  rename_i node _
  simp only [m2mCloudCtrlResponseMsg]
  cases hopts : extractResponseOptions s.access node s.heap with
  | none => exact Or.inl ⟨rfl, rfl⟩
  | some found =>
    exact coapServerSendResp_counts (henv' _) node.req (extractResponseOptions_seq hopts) found.2 s.seq

theorem sendCloudCtlMsgResp_silent {env : CtlEnv} {req : CoapPacket} {raw : CoapRaw}
    (h : env.respMem = false ∨ ctlRespOptions s.access req raw = none) (base : ℕ) :
    (sendCloudCtlMsgResp env base req raw s).1.seq = s.seq ∧ (sendCloudCtlMsgResp env base req raw s).2.1 = none := by
  unfold sendCloudCtlMsgResp
  split_ifs with hparse hmem
  · exact ⟨rfl, rfl⟩
  · cases m2mCloudCreateCoapNode env base req raw <;> exact ⟨rfl, rfl⟩
  · have hnone : ctlRespOptions s.access req raw = none := h.resolve_left hmem
    cases m2mCloudCreateCoapNode env base req raw with
    | none => exact ⟨rfl, rfl⟩
    | some node => simp [buildCloudCtlRespMsg, hnone]

theorem ctlOutcome_counts {e : CtlEvent} (h : Steady s e) :
    Counts s.seq (ctlOutcome s e).1.seq ((ctlOutcome s e).2.map CtlSent.seq) := by
  cases e with
  | request env => simpa [ctlOutcome, Function.comp_def, CtlSent.seq] using m2mCloudSendRequest_counts h
  | report reportJson env => simpa [ctlOutcome, Function.comp_def, CtlSent.seq] using m2mCloudReportMessage_counts h
  | receive heap base len ctx lock env =>
    simp only [ctlOutcome]
    cases hreq : controlRequest ctx lock (rawAt heap base len) with
    | none => exact Or.inl ⟨rfl, rfl⟩
    | some found =>
      obtain ⟨hseq, hsent⟩ := sendCloudCtlMsgResp_silent
        (s := { s with heap := decodedHeap ctx heap base len }) (h found.1 found.2 hreq) base
      exact Or.inl ⟨hseq, by simp [hsent]⟩
  | other heap => exact Or.inl ⟨rfl, rfl⟩
  | answer dataArray env =>
    simpa [ctlOutcome, Function.comp_def] using m2mCloudResponseMessage_counts h dataArray s

/-! ## Whole runs -/

/-- The first `n` numbers of a counter. -/
def counted (start : UInt32) (n : ℕ) : List (List UInt8) :=
  (List.range n).map fun i => htonl (start + UInt32.ofNat i)

theorem counted_succ (start : UInt32) (n : ℕ) :
    counted start (n + 1) = counted start n ++ [htonl (start + UInt32.ofNat n)] := by
  simp [counted, List.range_succ]

theorem toNat_counter (start : UInt32) (n : ℕ) :
    (start + UInt32.ofNat n).toNat = (start.toNat + n) % 2 ^ 32 := by
  rw [UInt32.toNat_add, UInt32.toNat_ofNat', Nat.add_mod_mod]

theorem counted_consecutive (start : UInt32) (n : ℕ) : Consecutive (counted start n) := by
  constructor
  · intro v hv
    obtain ⟨i, -, rfl⟩ := List.mem_map.mp hv
    exact htonl_length _
  · rw [counted, List.isChain_map]
    cases n with
    | zero => exact List.isChain_nil
    | succ n =>
      apply (List.isChain_range_succ _ n).mpr
      intro i _
      rw [ofBytes_htonl, ofBytes_htonl, toNat_counter, toNat_counter, Nat.mod_add_mod]
      rfl

theorem counted_nodup (start : UInt32) {n : ℕ} (hn : n ≤ 2 ^ 32) : (counted start n).Nodup := by
  apply List.Nodup.map_on _ List.nodup_range
  intro i hi j hj hij
  rw [List.mem_range] at hi hj
  have hval := congrArg ofBytes hij
  rw [ofBytes_htonl, ofBytes_htonl, toNat_counter, toNat_counter] at hval
  omega

/-- What the connection has sent are the first values of its counter. -/
def CountedFrom (start : UInt32) (p : CtlState × List (List UInt8)) : Prop :=
  ∃ n, p.1.seq = start + UInt32.ofNat n ∧ p.2 = counted start n

theorem seqStep_counted {start : UInt32} (p : CtlState × List (List UInt8)) (e : CtlEvent) (he : Steady p.1 e)
    (hp : CountedFrom start p) : CountedFrom start (seqStep p e) := by
  obtain ⟨n, hseq, hsent⟩ := hp
  obtain ⟨hstay, hnone⟩ | ⟨hnext, hsome⟩ := ctlOutcome_counts he
  · refine ⟨n, hstay.trans hseq, ?_⟩
    rw [seqStep, hnone, hsent]
    exact List.append_nil _
  · refine ⟨n + 1, ?_, ?_⟩
    · rw [seqStep, hnext, hseq, UInt32.ofNat_add, UInt32.add_assoc]
      rfl
    · rw [seqStep, hsome, hsent, counted_succ, hseq]
      rfl

theorem sequence_numbers_consecutive (s : CtlState) (es : List CtlEvent)
    (h : Along seqStep (fun p e => Steady p.1 e) (s, []) es) :
    Consecutive (run seqStep (s, []) es).2 ∧
      ((run seqStep (s, []) es).2.length ≤ 2 ^ 32 → (run seqStep (s, []) es).2.Nodup) := by
  have hstart : CountedFrom s.seq (s, []) := ⟨0, by simp, rfl⟩
  obtain ⟨n, -, hn⟩ := run_invariant seqStep_counted h hstart
  rw [hn]
  refine ⟨counted_consecutive s.seq n, ?_⟩
  intro hlen
  rw [counted, List.length_map, List.length_range] at hlen
  exact counted_nodup s.seq hlen

/-! ## Two connections -/

def freshConnection (seq : UInt32) : CtlState := ⟨seq, ascii "t", fun _ => 0, []⟩

def sentRequest : CtlEvent := .request ⟨true, true, true, ⟨true, true⟩⟩

/-- Three requests across the wrap of the counter. -/
theorem requests_consecutive :
    (run seqStep (freshConnection 0xFFFFFFFE, []) [sentRequest, sentRequest, sentRequest]).2 =
      [[0xFF, 0xFF, 0xFF, 0xFE], [0xFF, 0xFF, 0xFF, 0xFF], [0, 0, 0, 0]] ∧
    Consecutive (run seqStep (freshConnection 0xFFFFFFFE, []) [sentRequest, sentRequest, sentRequest]).2 := by
  have hrun : Along seqStep (fun p e => Steady p.1 e) (freshConnection 0xFFFFFFFE, [])
      [sentRequest, sentRequest, sentRequest] := by
    have hsteady : ∀ s, Steady s sentRequest := fun s _ => ⟨rfl, rfl, rfl, rfl⟩
    exact ⟨hsteady _, hsteady _, hsteady _, trivial⟩
  exact ⟨by decide, (sequence_numbers_consecutive _ _ hrun).1⟩

/-- Two reports that are sent carry the same four zero bytes, whatever the counter is. -/
theorem reports_not_consecutive :
    (run seqStep (freshConnection 5, []) [.report true ⟨true, true⟩, .report true ⟨true, true⟩]).2 =
      [[0, 0, 0, 0], [0, 0, 0, 0]] ∧
    ¬ Consecutive (run seqStep (freshConnection 5, []) [.report true ⟨true, true⟩, .report true ⟨true, true⟩]).2 := by
  have hsent : (run seqStep (freshConnection 5, []) [.report true ⟨true, true⟩, .report true ⟨true, true⟩]).2 =
      [[0, 0, 0, 0], [0, 0, 0, 0]] := by decide
  refine ⟨hsent, ?_⟩
  rw [hsent]
  rintro ⟨-, hchain⟩
  have hnext := (List.isChain_pair.mp hchain)
  exact absurd hnext (by decide)

end IotConnect.Cloud.Link
