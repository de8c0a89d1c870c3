import IotConnect.Cloud.Response

/-! # One answer for every control request

A ledger beside the state records what was sent for each kept request, how often its node was freed and how often each
response JSON was. The handler keeps a node and sends a response whether the device is done or answers later, and what
the device answers later is copied into a JSON that is freed twice. So every request is answered exactly once and
everything is released once only in runs in which the requests that are kept get no answer at all. -/
namespace IotConnect.Cloud.Link
open Bytes Coap Endpoint Trace
set_option autoImplicit false

/-! ## The ledger -/

/-- A request for which a node was made: whether it got as far as the device, whether the device answers it
later, the tokens of the responses that were sent for it, how often its node was freed, and how often each JSON that
was made for a response to it. -/
structure CtlEntry where
  accepted : Bool
  async : Bool
  responses : List (List UInt8)
  frees : ℕ
  jsons : List ℕ
deriving DecidableEq

/-- The requests whose nodes are in the list, in its order, and those whose nodes have been freed. -/
structure CtlLedger where
  saved : List (CoapResponeNode × CtlEntry)
  released : List (CoapResponeNode × CtlEntry)

def sentTokens : Option CtlSent → List (List UInt8)
  | some (.response r) => [r.token]
  | _ => []

/-- How often each response JSON of an event has been freed. -/
def ctlJsons (s : CtlState) : CtlEvent → List ℕ
  | .receive heap base len ctx lock env =>
    match controlRequest ctx lock (rawAt heap base len) with
    | none => []
    | some (req, raw) => (sendCloudCtlMsgResp env base req raw { s with heap := decodedHeap ctx heap base len }).2.2
  | .answer dataArray env => (m2mCloudResponseMessage env dataArray s).2.2.toList
  | _ => []

def CtlLedger.note (l : CtlLedger) (tokens : List (List UInt8)) (jsons : List ℕ) (async : Bool) :
    CtlEvent → CtlLedger
  | .receive heap base len ctx lock env =>
    match keptNode ctx lock heap base len env with
    | none => l
    | some node => { l with saved := l.saved ++ [(node, ⟨env.respMem, async, tokens, 0, jsons⟩)] }
  | .answer dataArray _ =>
    match resultIds dataArray with
    | none => l
    | some (devId, msgId) =>
      match l.saved.find? fun q => q.1.answers msgId devId with
      | none => l
      | some (node, entry) =>
        ⟨l.saved.eraseP fun q => q.1.answers msgId devId,
          l.released ++ [(node, { entry with
            responses := entry.responses ++ tokens
            frees := entry.frees + 1
            jsons := entry.jsons ++ jsons })]⟩
  | _ => l

def ledgerStep (p : CtlState × CtlLedger) (e : CtlEvent × Bool) : CtlState × CtlLedger :=
  ((ctlOutcome p.1 e.1).1, p.2.note (sentTokens (ctlOutcome p.1 e.1).2) (ctlJsons p.1 e.1) e.2 e.1)

def CtlEntry.awaiting (entry : CtlEntry) : Bool := entry.accepted && entry.async && entry.responses = []

/-- The request was accepted and waits for the device, and what was made for it so far is released. -/
structure CtlEntry.Waits (entry : CtlEntry) : Prop where
  accepted : entry.accepted = true
  async : entry.async = true
  responses : entry.responses = []
  frees : entry.frees = 0
  jsons : ∀ n ∈ entry.jsons, n = 1

/-- One response with the token was sent, and the node and every response JSON were freed once. -/
structure CtlEntry.Answered (entry : CtlEntry) (token : List UInt8) : Prop where
  responses : entry.responses = [token]
  frees : entry.frees = 1
  jsons : ∀ n ∈ entry.jsons, n = 1

/-- A kept request waits for the device, a request whose node was freed was answered once with its own token, and there
are as many nodes as accepted requests that wait. -/
structure AnsweredOnce (p : CtlState × CtlLedger) : Prop where
  waiting : ∀ q ∈ p.2.saved, q.2.Waits
  answered : ∀ q ∈ p.2.released, q.2.Answered (tokenBytes q.1.req)
  count : p.1.responseList.length = ((p.2.saved ++ p.2.released).filter fun q => q.2.awaiting).length

/-- The immediate response leaves. A read request that the device has refused has no JSON for one. -/
def AnswersNow (env : CtlEnv) (access : List UInt8) (req : CoapPacket) (raw : CoapRaw) : Prop :=
  (ctlRespOptions access req raw).isSome ∧ (req.header.code = coapMethodTypeGet → env.getChar ≠ .failed) ∧
    Sendable env.send req 4

/-- A kept request is accepted and answered later only, the device has not replaced its response JSON, and no kept
request is answered. -/
def OnceStep (p : CtlState × CtlLedger) (e : CtlEvent × Bool) : Prop :=
  match e.1 with
  | .receive heap base len ctx lock env =>
    ∀ req raw, controlRequest ctx lock (rawAt heap base len) = some (req, raw) →
      (keptNode ctx lock heap base len env).isSome →
        env.respMem = true ∧ e.2 = true ∧ (req.header.code = coapMethodTypeGet → env.getChar ≠ .ok) ∧
          ¬ AnswersNow env p.1.access req raw
  | .answer dataArray _ =>
    ∀ devId msgId, resultIds dataArray = some (devId, msgId) →
      ∀ node ∈ p.1.responseList, node.answers msgId devId = false
  | _ => True

/-! ## Responses that leave -/

theorem hostBytes_length (bigEndian : Bool) (seq : UInt32) : (hostBytes bigEndian seq).length = 4 := by
  cases bigEndian with
  | false => rw [hostBytes, if_neg Bool.false_ne_true, List.length_reverse, htonl_length]
  | true => exact htonl_length seq

theorem sendable_payload (env : SendEnv) (json : JsonPtr) (req : CoapPacket) (seqLen : ℕ) :
    Sendable (env.payload json) req seqLen ↔ json.isSome = true ∧ Sendable env req seqLen := by
  simp only [Sendable, SendEnv.payload, Bool.and_eq_true]
  tauto

theorem ctlRespJson_isSome (env : CtlEnv) (req : CoapPacket) :
    (ctlRespJson env req).1.isSome = true ↔ (req.header.code = coapMethodTypeGet → env.getChar ≠ .failed) := by
  unfold ctlRespJson
  split_ifs with hget
  · cases env.getChar <;> simp [devSvcProxyCtlGetCharStates, hget]
  · simp [hget]

theorem ctlRespJson_frees (env : CtlEnv) (req : CoapPacket) :
    (∀ n ∈ (ctlRespJson env req).2 ++ (ctlRespJson env req).1.free.toList, n = 1) ↔
      (req.header.code = coapMethodTypeGet → env.getChar ≠ .ok) := by
  unfold ctlRespJson
  split_ifs with hget
  · cases env.getChar <;> simp [devSvcProxyCtlGetCharStates, JsonPtr.free, hget]
  · simp [JsonPtr.free, hget]

theorem buildCloudCtlRespMsg_tokens (env : CtlEnv) (access : List UInt8) (req : CoapPacket) (raw : CoapRaw)
    (seq : UInt32) :
    sentTokens ((buildCloudCtlRespMsg env access req raw (ctlRespJson env req).1 seq).2.map .response) = [] ↔
      ¬ AnswersNow env access req raw := by
  unfold buildCloudCtlRespMsg AnswersNow
  rw [← ctlRespJson_isSome, ← sendable_payload]
  cases ctlRespOptions access req raw with
  | none => simp [sentTokens]
  | some options =>
    simp only [coapServerSendResp_sent, hostBytes_length, Option.isSome_some, true_and]
    split_ifs with hsend <;> simp [sentTokens, hsend]

section
variable (env : SendEnv) (s : CtlState) (node : CoapResponeNode) (json : JsonPtr)

theorem m2mCloudCtrlResponseMsg_json : (m2mCloudCtrlResponseMsg env s node json).2 = json.free := by
  unfold m2mCloudCtrlResponseMsg
  split <;> rfl

theorem m2mCloudCtrlResponseMsg_null : (m2mCloudCtrlResponseMsg env s node none).1.2 = none := by
  unfold m2mCloudCtrlResponseMsg
  split
  · rfl
  · rw [coapServerSendResp_sent, if_neg fun h => by cases ((sendable_payload _ _ _ _).mp h).1]

end

/-- An answer that finds its request does not leave, or the copy of the result is freed twice. -/
theorem m2mCloudResponseMessage_found (env : AnswerEnv) {dataArray : List ResultItem} {s : CtlState}
    {devId msgId : List UInt8} {node : CoapResponeNode}
    (hids : resultIds dataArray = some (devId, msgId))
    (hfind : (s.responseList.find? fun node => node.answers msgId devId) = some node) :
    (m2mCloudResponseMessage env dataArray s).2.1 = none ∨
      (m2mCloudResponseMessage env dataArray s).2.2 = some 2 := by
  simp only [m2mCloudResponseMessage, hids, hfind, m2mCloudCtrlResponseMsg_json]
  cases env.copyMem with
  | false => exact .inl (m2mCloudCtrlResponseMsg_null _ _ _)
  | true => exact .inr rfl

/-! ## One step -/

def Recorded (p : CtlState × CtlLedger) : Prop := p.2.saved.map Prod.fst = p.1.responseList

variable {p : CtlState × CtlLedger}

theorem Recorded.find_eq (h : Recorded p) (msgId devId : List UInt8) :
    (p.1.responseList.find? fun n => n.answers msgId devId) =
      (p.2.saved.find? fun q => q.1.answers msgId devId).map Prod.fst := by
  rw [← h, List.find?_map]
  rfl

theorem Recorded.step (h : Recorded p) (e : CtlEvent × Bool) : Recorded (ledgerStep p e) := by
  obtain ⟨e, async⟩ := e
  cases e with
  | receive heap base len ctx lock env =>
    unfold Recorded ledgerStep
    rw [show (ctlOutcome p.1 (.receive heap base len ctx lock env)).1.responseList = _ from
      receive_responseList p.1 heap base len ctx lock env, ← h]
    simp only [CtlLedger.note]
    cases keptNode ctx lock heap base len env <;> simp
  | answer dataArray env =>
    cases hids : resultIds dataArray with
    | none =>
      simp only [Recorded, ledgerStep, CtlLedger.note, ctlOutcome, m2mCloudResponseMessage, hids]
      exact h
    | some ids =>
      have hfind := h.find_eq ids.2 ids.1
      simp only [Recorded, ledgerStep, CtlLedger.note, ctlOutcome, m2mCloudResponseMessage, hids]
      cases hsaved : p.2.saved.find? fun q => q.1.answers ids.2 ids.1 with
      | none =>
        rw [hsaved, Option.map_none] at hfind
        rw [hfind]
        exact h
      | some q =>
        rw [hsaved, Option.map_some] at hfind
        rw [hfind, ← h, List.eraseP_map]
        rfl
  | request env => exact h
  | report reportJson env => exact h
  | other heap => exact h

theorem answeredOnce_iff (h : Recorded p) : AnsweredOnce p ↔ (∀ q ∈ p.2.saved, q.2.Waits) ∧
      ∀ q ∈ p.2.released, q.2.Answered (tokenBytes q.1.req) := by
  constructor
  · intro hp
    exact ⟨hp.waiting, hp.answered⟩
  · rintro ⟨hwait, hans⟩
    refine ⟨hwait, hans, ?_⟩
    have hsaved : (p.2.saved.filter fun q => q.2.awaiting) = p.2.saved := by
      apply List.filter_eq_self.mpr
      intro q hq
      simp [CtlEntry.awaiting, (hwait q hq).accepted, (hwait q hq).async, (hwait q hq).responses]
    have hreleased : (p.2.released.filter fun q => q.2.awaiting) = [] := by
      apply List.filter_eq_nil_iff.mpr
      intro q hq
      simp [CtlEntry.awaiting, (hans q hq).responses]
    rw [List.filter_append, hsaved, hreleased, List.append_nil, ← h, List.length_map]

theorem keptNode_eq_some {ctx : M2mCloudContext} {lock : Bool} {heap : ℕ → UInt8} {base len : ℕ} {env : CtlEnv}
    {node : CoapResponeNode} (h : keptNode ctx lock heap base len env = some node) :
    ∃ req raw, controlRequest ctx lock (rawAt heap base len) = some (req, raw) ∧
      parseCloudCtlMsg env req raw = true ∧ m2mCloudCreateCoapNode env base req raw = some node := by
  unfold keptNode at h
  split at h
  · cases h
  · rename_i req raw hreq
    split_ifs at h with hparse
    exact ⟨req, raw, hreq, (Bool.not_eq_false _).mp hparse, h⟩

theorem receive_outcome {ctx : M2mCloudContext} {lock : Bool} {heap : ℕ → UInt8} {base len : ℕ} {env : CtlEnv}
    {req : CoapPacket} {raw : CoapRaw} {node : CoapResponeNode} (s : CtlState)
    (hreq : controlRequest ctx lock (rawAt heap base len) = some (req, raw))
    (hparse : parseCloudCtlMsg env req raw = true) (hnode : m2mCloudCreateCoapNode env base req raw = some node)
    (hmem : env.respMem = true) :
    (sentTokens (ctlOutcome s (.receive heap base len ctx lock env)).2 = [] ↔ ¬ AnswersNow env s.access req raw) ∧
      ((∀ n ∈ ctlJsons s (.receive heap base len ctx lock env), n = 1) ↔
        (req.header.code = coapMethodTypeGet → env.getChar ≠ .ok)) := by
  simp only [ctlOutcome, ctlJsons, hreq, sendCloudCtlMsgResp, hparse, hnode, hmem, Bool.true_eq_false, if_false]
  exact ⟨buildCloudCtlRespMsg_tokens env s.access req raw s.seq, ctlRespJson_frees env req⟩

theorem receive_once_iff (h : Recorded p) (hgood : AnsweredOnce p) (heap : ℕ → UInt8)
    (base len : ℕ) (ctx : M2mCloudContext) (lock : Bool) (env : CtlEnv) (async : Bool) :
    AnsweredOnce (ledgerStep p (.receive heap base len ctx lock env, async)) ↔
      OnceStep p (.receive heap base len ctx lock env, async) := by
  rw [answeredOnce_iff (h.step _)]
  simp only [ledgerStep, OnceStep, CtlLedger.note]
  cases hkept : keptNode ctx lock heap base len env with
  | none =>
    refine iff_of_true ⟨hgood.waiting, hgood.answered⟩ ?_
    intro req raw _ hsome
    cases hsome
  | some node =>
    obtain ⟨req, raw, hreq, hparse, hnode⟩ := keptNode_eq_some hkept
    have hentry : (⟨env.respMem, async, sentTokens (ctlOutcome p.1 (.receive heap base len ctx lock env)).2, 0,
        ctlJsons p.1 (.receive heap base len ctx lock env)⟩ : CtlEntry).Waits ↔
        env.respMem = true ∧ async = true ∧ (req.header.code = coapMethodTypeGet → env.getChar ≠ .ok) ∧
          ¬ AnswersNow env p.1.access req raw := by
      constructor
      · rintro ⟨hmem, hasync, hsent, -, hjsons⟩
        obtain ⟨htokens, hfrees⟩ := receive_outcome p.1 hreq hparse hnode hmem
        exact ⟨hmem, hasync, hfrees.mp hjsons, htokens.mp hsent⟩
      · rintro ⟨hmem, hasync, hget, hnow⟩
        obtain ⟨htokens, hfrees⟩ := receive_outcome p.1 hreq hparse hnode hmem
        exact ⟨hmem, hasync, htokens.mpr hnow, rfl, hfrees.mpr hget⟩
    constructor
    · rintro ⟨hwait, -⟩ req' raw' hreq' -
      obtain ⟨rfl, rfl⟩ := Prod.mk.inj (Option.some.inj (hreq.symm.trans hreq'))
      exact hentry.mp (hwait (node, _) (List.mem_append_right _ List.mem_cons_self))
    · intro honce
      refine ⟨?_, hgood.answered⟩
      intro q hq
      rcases List.mem_append.mp hq with hold | hnew
      · exact hgood.waiting q hold
      · rw [List.mem_singleton.mp hnew]
        exact hentry.mpr (honce req raw hreq rfl)

theorem answer_once_iff (h : Recorded p) (hgood : AnsweredOnce p) (dataArray : List ResultItem) (env : AnswerEnv)
    (async : Bool) :
    AnsweredOnce (ledgerStep p (.answer dataArray env, async)) ↔ OnceStep p (.answer dataArray env, async) := by
  have hsame (hnote : (ledgerStep p (.answer dataArray env, async)).2 = p.2) :
      AnsweredOnce (ledgerStep p (.answer dataArray env, async)) := by
    rw [answeredOnce_iff (h.step _), hnote]
    exact ⟨hgood.waiting, hgood.answered⟩
  cases hids : resultIds dataArray with
  | none =>
    refine iff_of_true (hsame (by simp only [ledgerStep, CtlLedger.note, hids])) fun devId msgId heq => ?_
    cases hids.symm.trans heq
  | some ids =>
    have hfind := h.find_eq ids.2 ids.1
    cases hsaved : p.2.saved.find? fun q => q.1.answers ids.2 ids.1 with
    | none =>
      rw [hsaved, Option.map_none, List.find?_eq_none] at hfind
      refine iff_of_true (hsame (by simp only [ledgerStep, CtlLedger.note, hids, hsaved])) ?_
      intro devId msgId heq node hnode
      cases hids.symm.trans heq
      exact Bool.eq_false_iff.mpr (hfind node hnode)
    | some q =>
      rw [hsaved, Option.map_some] at hfind
      have hq := hgood.waiting q (List.mem_of_find?_eq_some hsaved)
      refine iff_of_false (fun hafter => ?_) fun honce => ?_
      · -- the node is freed with this answer, which is not sent or whose copy is freed twice
        have hans := hafter.answered
        simp only [ledgerStep, CtlLedger.note, hids, hsaved] at hans
        have hlast := hans (q.1, _) (List.mem_append_right _ List.mem_cons_self)
        rcases m2mCloudResponseMessage_found env hids hfind with hsent | hjson
        · have hnone := hlast.responses
          simp [ctlOutcome, hsent, hq.responses, sentTokens] at hnone
        · have htwo := hlast.jsons 2 (List.mem_append_right _ (by simp [ctlJsons, hjson]))
          cases htwo
      · have hno := honce ids.1 ids.2 hids q.1 (List.mem_of_find?_eq_some hfind)
        rw [List.find?_some hfind] at hno
        cases hno

theorem ledgerStep_once_iff (p : CtlState × CtlLedger) (e : CtlEvent × Bool) (h : Recorded p)
    (hgood : AnsweredOnce p) : AnsweredOnce (ledgerStep p e) ↔ OnceStep p e := by
  obtain ⟨e, async⟩ := e
  cases e with
  | receive heap base len ctx lock env => exact receive_once_iff h hgood heap base len ctx lock env async
  | answer dataArray env => exact answer_once_iff h hgood dataArray env async
  | request env => exact iff_of_true ⟨hgood.waiting, hgood.answered, hgood.count⟩ trivial
  | report reportJson env => exact iff_of_true ⟨hgood.waiting, hgood.answered, hgood.count⟩ trivial
  | other heap => exact iff_of_true ⟨hgood.waiting, hgood.answered, hgood.count⟩ trivial

/-! ## Whole runs -/

/-- From a connection without kept requests, all requests are answered exactly once after every step of a run if
and only if all its steps are such. -/
theorem answered_once_along_iff (seq : UInt32) (access : List UInt8) (heap : ℕ → UInt8)
    (es : List (CtlEvent × Bool)) :
    Along ledgerStep (fun p e => AnsweredOnce (ledgerStep p e)) (⟨seq, access, heap, []⟩, ⟨[], []⟩) es ↔
      Along ledgerStep OnceStep (⟨seq, access, heap, []⟩, ⟨[], []⟩) es := by
  have hstart : AnsweredOnce (⟨seq, access, heap, []⟩, ⟨[], []⟩) := ⟨nofun, nofun, rfl⟩
  have hrecorded : Recorded (⟨seq, access, heap, []⟩, ⟨[], []⟩) := rfl
  exact along_kept_iff (fun p e h => Recorded.step h e) ledgerStep_once_iff hrecorded hstart es

/-- A read request the device answers later is answered at once as well, with the same token. Of the JSON that were
made for it one is lost, and one is freed twice. -/
theorem answered_twice :
    (run ledgerStep (freshConnection 3, ⟨[], []⟩) [(receivedFrame true (ctlFrame 1 0x72 0x64), true),
      (.answer (resultFor "r" "d") ⟨⟨true, true⟩, true⟩, true)]).2.released.map Prod.snd =
        [⟨true, true, [[9], [9]], 1, [0, 1, 2]⟩] ∧
    ¬ AnsweredOnce (run ledgerStep (freshConnection 3, ⟨[], []⟩) [(receivedFrame true (ctlFrame 1 0x72 0x64), true),
      (.answer (resultFor "r" "d") ⟨⟨true, true⟩, true⟩, true)]) := by
  have hreleased : (run ledgerStep (freshConnection 3, ⟨[], []⟩)
      [(receivedFrame true (ctlFrame 1 0x72 0x64), true),
        (.answer (resultFor "r" "d") ⟨⟨true, true⟩, true⟩, true)]).2.released.map Prod.snd =
      [⟨true, true, [[9], [9]], 1, [0, 1, 2]⟩] := by decide
  refine ⟨hreleased, ?_⟩
  intro hgood
  obtain ⟨q, hq, hentry⟩ := List.mem_map.mp (hreleased ▸ List.mem_cons_self)
  have hone := (hgood.answered q hq).responses
  rw [hentry] at hone
  exact absurd (congrArg List.length hone) (by simp)

end IotConnect.Cloud.Link
