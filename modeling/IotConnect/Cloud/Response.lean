import IotConnect.Cloud.Sequence

/-! # Answers to control requests

An answer the device gives later is built from the request that was kept for it. The token and the message id
were copied, but the options are read from the receive buffer as it is by then, and the sequence number is
overwritten by the counter. So an answer is that of its request only if nothing was received in between that says
otherwise, and if the counter happens to be where the request was. -/
namespace IotConnect.Cloud.Link
open Bytes Coap Endpoint Memory Trace Transport
set_option autoImplicit false

/-! ## Responses -/

/-- The response `CoapServerSendResp` makes. -/
def responseTo (req : CoapPacket) (options : List (UInt16 × List UInt8)) (seq : UInt32) : CtlResponse :=
  ⟨⟨0, if req.header.type = 0 then 2 else 1, req.header.tkl, 0x45, req.header.msgId⟩, tokenBytes req,
    options ++ [(coapOptionTypeSeqNumId, htonl seq)]⟩

/-- A response to `req` with a sequence number option of `seqLen` bytes leaves. -/
def Sendable (env : SendEnv) (req : CoapPacket) (seqLen : ℕ) : Prop :=
  req.header.tkl.val ≤ coapTokenMaxLen ∧ env.encodes = true ∧ seqLen = 4 ∧ env.links = true

instance (env : SendEnv) (req : CoapPacket) (seqLen : ℕ) : Decidable (Sendable env req seqLen) :=
  inferInstanceAs (Decidable (_ ∧ _))

theorem coapServerSendResp_sent (env : SendEnv) (req : CoapPacket) (options : List (UInt16 × List UInt8))
    (data : List UInt8) (seq : UInt32) :
    (coapServerSendResp env req options data seq).2 =
      if Sendable env req data.length then some (responseTo req options seq) else none := by
  by_cases htkl : req.header.tkl.val ≤ coapTokenMaxLen
  · have hnot : ¬ coapTokenMaxLen < req.header.tkl.val := Nat.not_lt.mpr htkl
    by_cases hsend : env.encodes = true ∧ data.length = 4
    · cases hlink : env.links <;>
        simp [coapServerSendResp, hnot, coapEndpointSendPacket_addr, hsend, Sendable, htkl, hlink, responseTo]
    · have hneg : ¬ Sendable env req data.length := fun h => hsend ⟨h.2.1, h.2.2.1⟩
      rw [if_neg hneg]
      simp only [coapServerSendResp, hnot, if_false, coapEndpointSendPacket_addr, hsend, Option.map_none]
  · have hneg : ¬ Sendable env req data.length := fun h => htkl h.1
    rw [if_neg hneg]
    simp [coapServerSendResp, Nat.not_le.mp htkl]

variable {node : CoapResponeNode}

theorem m2mCloudCtrlResponseMsg_eq_some {env : SendEnv} {s : CtlState} {json : JsonPtr} {r : CtlResponse}
    (h : (m2mCloudCtrlResponseMsg env s node json).1.2 = some r) :
    ∃ options seqId, extractResponseOptions s.access node s.heap = some (options, seqId) ∧
      r = responseTo node.req options s.seq := by
  unfold m2mCloudCtrlResponseMsg at h
  cases hopts : extractResponseOptions s.access node s.heap with
  | none =>
    rw [hopts] at h
    cases h
  | some found =>
    rw [hopts] at h
    have h' := h
    rw [coapServerSendResp_sent] at h'
    split_ifs at h'
    exact ⟨found.1, found.2, rfl, (Option.some.inj h').symm⟩

/-! ## What a kept request says later -/

def keptNode (ctx : M2mCloudContext) (lock : Bool) (heap : ℕ → UInt8) (base len : ℕ) (env : CtlEnv) :
    Option CoapResponeNode :=
  match controlRequest ctx lock (rawAt heap base len) with
  | none => none
  | some (req, raw) =>
    if parseCloudCtlMsg env req raw = false then none else m2mCloudCreateCoapNode env base req raw

/-- The response has the token, the message id, the request id, the device id and the sequence number of a
request as it was received. -/
def CarriesIdentity (r : CtlResponse) (req : CoapPacket) (raw : CoapRaw) : Prop :=
  r.token = tokenBytes req ∧ r.header.msgId = req.header.msgId ∧
    r.value coapOptionTypeReqId = coapSingleOption req raw coapOptionTypeReqId ∧
    r.value coapOptionTypeDevId = coapSingleOption req raw coapOptionTypeDevId ∧
    r.value coapOptionTypeSeqNumId = coapSingleOption req raw coapOptionTypeSeqNumId

theorem m2mCloudCreateCoapNode_req {env : CtlEnv} {base : ℕ} {req : CoapPacket} {raw : CoapRaw}
    (h : m2mCloudCreateCoapNode env base req raw = some node) : node.req = req := by
  unfold m2mCloudCreateCoapNode at h
  split at h
  · split_ifs at h
    rw [← Option.some.inj h]
  · cases h

theorem keptNode_req {ctx : M2mCloudContext} {lock : Bool} {heap : ℕ → UInt8} {base len : ℕ} {env : CtlEnv}
    {req : CoapPacket} {raw : CoapRaw}
    (hreq : controlRequest ctx lock (rawAt heap base len) = some (req, raw))
    (hkept : keptNode ctx lock heap base len env = some node) : node.req = req := by
  rw [keptNode, hreq] at hkept
  dsimp only at hkept
  split_ifs at hkept
  exact m2mCloudCreateCoapNode_req hkept

theorem response_value {access : List UInt8} {heap : ℕ → UInt8}
    {options : List (UInt16 × List UInt8)} {seqId : List UInt8}
    (h : extractResponseOptions access node heap = some (options, seqId)) (seq : UInt32) :
    (responseTo node.req options seq).value coapOptionTypeReqId = node.option heap coapOptionTypeReqId ∧
      (responseTo node.req options seq).value coapOptionTypeDevId = node.option heap coapOptionTypeDevId ∧
      (responseTo node.req options seq).value coapOptionTypeSeqNumId = some (htonl seq) := by
  refine ⟨?_, ?_, lookup_seq (extractResponseOptions_seq h) _⟩
  all_goals
    unfold extractResponseOptions at h
    split at h
    · rename_i reqId devId userId seqNum hr hd hu hs
      obtain ⟨rfl, -⟩ := Prod.mk.inj (Option.some.inj h)
      first | rw [hr] | rw [hd]
      rfl
    · cases h

theorem receive_responseList (s : CtlState) (heap : ℕ → UInt8) (base len : ℕ) (ctx : M2mCloudContext) (lock : Bool)
    (env : CtlEnv) :
    (ctlStep s (.receive heap base len ctx lock env)).responseList =
      s.responseList ++ (keptNode ctx lock heap base len env).toList := by
  simp only [ctlStep, ctlOutcome, keptNode]
  cases controlRequest ctx lock (rawAt heap base len) with
  | none => simp
  | some found =>
    simp only [sendCloudCtlMsgResp]
    split_ifs with hparse hmem
    · simp
    all_goals cases m2mCloudCreateCoapNode env base found.1 found.2 <;> simp

def CtlEvent.memory (heap : ℕ → UInt8) : CtlEvent → ℕ → UInt8
  | .receive heap base len ctx _ _ => decodedHeap ctx heap base len
  | .other heap => heap
  | .request _ => heap
  | .report _ _ => heap
  | .answer _ _ => heap

theorem sendCloudCtlMsgResp_heap (env : CtlEnv) (base : ℕ) (req : CoapPacket) (raw : CoapRaw) (s : CtlState) :
    (sendCloudCtlMsgResp env base req raw s).1.heap = s.heap := by
  unfold sendCloudCtlMsgResp
  split_ifs with hparse hmem
  · rfl
  all_goals cases m2mCloudCreateCoapNode env base req raw <;> rfl

theorem m2mCloudResponseMessage_heap (env : AnswerEnv) (dataArray : List ResultItem) (s : CtlState) :
    (m2mCloudResponseMessage env dataArray s).1.heap = s.heap := by
  unfold m2mCloudResponseMessage
  split
  · rfl
  · split <;> rfl

theorem ctlStep_heap (s : CtlState) (e : CtlEvent) : (ctlStep s e).heap = e.memory s.heap := by
  cases e with
  | receive heap base len ctx lock env =>
    simp only [ctlStep, ctlOutcome]
    cases controlRequest ctx lock (rawAt heap base len) with
    | none => rfl
    | some found => exact sendCloudCtlMsgResp_heap _ _ _ _ _
  | answer dataArray env => exact m2mCloudResponseMessage_heap env dataArray s
  | request env => rfl
  | report reportJson env => rfl
  | other heap => rfl

theorem run_heap (s : CtlState) (es : List CtlEvent) :
    (run ctlStep s es).heap = run CtlEvent.memory s.heap es := by
  induction es generalizing s with
  | nil => rfl
  | cons e es ih => rw [run_cons, run_cons, ih, ctlStep_heap]

/-- A request `req` is kept, `es` happens, and then the device answers and the kept node is found. -/
theorem async_response_identity_iff (s : CtlState) (heap : ℕ → UInt8) (base len : ℕ) (ctx : M2mCloudContext)
    (lock : Bool) (env : CtlEnv) (req : CoapPacket) (raw : CoapRaw) (node : CoapResponeNode)
    (hreq : controlRequest ctx lock (rawAt heap base len) = some (req, raw))
    (hkept : keptNode ctx lock heap base len env = some node) (es : List CtlEvent) (s' : CtlState)
    (hs' : run ctlStep (ctlStep s (.receive heap base len ctx lock env)) es = s')
    (hfound : (s'.responseList.find? fun n => n.answers node.msgId node.devId) = some node)
    (dataArray : List ResultItem) (hids : resultIds dataArray = some (node.devId, node.msgId))
    (send : AnswerEnv) (r : CtlResponse) (hsent : (ctlOutcome s' (.answer dataArray send)).2 = some (.response r)) :
    CarriesIdentity r req raw ↔
      node.option (run CtlEvent.memory (decodedHeap ctx heap base len) es) coapOptionTypeReqId =
        coapSingleOption req raw coapOptionTypeReqId ∧
      node.option (run CtlEvent.memory (decodedHeap ctx heap base len) es) coapOptionTypeDevId =
        coapSingleOption req raw coapOptionTypeDevId ∧
      coapSingleOption req raw coapOptionTypeSeqNumId = some (htonl s'.seq) := by
  have hheap : run CtlEvent.memory (decodedHeap ctx heap base len) es = s'.heap := by
    rw [← hs', run_heap, ctlStep_heap]
    rfl
  have hmsg : (m2mCloudCtrlResponseMsg send.toSendEnv s' node (if send.copyMem then some 0 else none)).1.2 = some r := by
    simp only [ctlOutcome, m2mCloudResponseMessage, hids, hfound, Option.map_eq_some_iff] at hsent
    obtain ⟨r', hr', heq⟩ := hsent
    cases heq
    exact hr'
  obtain ⟨options, seqId, hopts, rfl⟩ := m2mCloudCtrlResponseMsg_eq_some hmsg
  obtain ⟨hreqId, hdevId, hseq⟩ := response_value hopts s'.seq
  have hpacket : node.req = req := keptNode_req hreq hkept
  rw [hheap, CarriesIdentity, hreqId, hdevId, hseq, hpacket, eq_comm (a := some (htonl s'.seq))]
  constructor
  · rintro ⟨-, -, h⟩
    exact h
  · intro h
    exact ⟨rfl, rfl, h⟩

/-- A request of the method `code`, as the cloud sends it without encryption. -/
def ctlFrame (code reqId devId : UInt8) : List UInt8 :=
  [0x01, code, 9, 0xB1, 0x63, 0xE1, 0x06, 0xEA, reqId, 0x11, devId, 0x11, 0x75, 0x14, 0, 0, 0, 5]

def frameHeap (frame : List UInt8) : ℕ → UInt8 := store (fun _ => 0) 0 frame

def plainContext : M2mCloudContext := ⟨⟨false, false, [], []⟩, PskCrypto.padOnly true⟩

def ctlEnv (links : Bool) : CtlEnv := ⟨false, fun _ => true, true, true, true, .ok, ⟨true, links⟩⟩

def resultFor (msgId devId : String) : List ResultItem :=
  [⟨some ⟨false, some (ascii devId)⟩, some ⟨false, some (ascii msgId)⟩⟩]

def receivedFrame (links : Bool) (frame : List UInt8) : CtlEvent :=
  .receive (frameHeap frame) 0 frame.length plainContext true (ctlEnv links)

def getRequest : CoapPacket × CoapRaw :=
  (controlRequest plainContext true (rawAt (frameHeap (ctlFrame 1 0x72 0x64)) 0 18)).get (by decide)

def getNode : CoapResponeNode :=
  (keptNode plainContext true (frameHeap (ctlFrame 1 0x72 0x64)) 0 18 (ctlEnv true)).get (by decide)

theorem getRequest_eq :
    controlRequest plainContext true (rawAt (frameHeap (ctlFrame 1 0x72 0x64)) 0 18) = some getRequest :=
  (Option.some_get _).symm

theorem getNode_eq :
    keptNode plainContext true (frameHeap (ctlFrame 1 0x72 0x64)) 0 18 (ctlEnv true) = some getNode :=
  (Option.some_get _).symm

/-- The answer to a read request with the sequence number 5, when the counter has just got there. -/
def getResponse (reqId devId : UInt8) : CtlResponse :=
  ⟨⟨0, 2, 1, 0x45, 0⟩, [9], [(coapOptionTypeAccessTokenId, ascii "t"), (coapOptionTypeReqId, [reqId]),
    (coapOptionTypeDevId, [devId]), (coapOptionTypeUserId, ascii "u"), (coapOptionTypeSeqNumId, [0, 0, 0, 5])]⟩

theorem getNode_found (seq : UInt32) :
    ((run ctlStep (ctlStep (freshConnection seq) (receivedFrame true (ctlFrame 1 0x72 0x64)))
      [receivedFrame true (ctlFrame 0x45 0x72 0x64)]).responseList.find? fun n =>
      n.answers getNode.msgId getNode.devId) = some getNode := by
  have hnone : keptNode plainContext true (frameHeap (ctlFrame 0x45 0x72 0x64)) 0 18 (ctlEnv true) = none := by decide
  show (ctlStep (ctlStep (freshConnection seq) (receivedFrame true (ctlFrame 1 0x72 0x64)))
      (receivedFrame true (ctlFrame 0x45 0x72 0x64))).responseList.find? _ = some getNode
  rw [receivedFrame, receivedFrame, receive_responseList, receive_responseList]
  show List.find? _ (([] ++
    (keptNode plainContext true (frameHeap (ctlFrame 1 0x72 0x64)) 0 18 (ctlEnv true)).toList) ++
    (keptNode plainContext true (frameHeap (ctlFrame 0x45 0x72 0x64)) 0 18 (ctlEnv true)).toList) = some getNode
  rw [getNode_eq, hnone]
  simp [CoapResponeNode.answers]

/-- A packet with the same ids at the same places is received in between, and the counter is where the request was. -/
theorem async_response_identity_kept :
    CarriesIdentity (getResponse 0x72 0x64) getRequest.1 getRequest.2 := by
  refine (async_response_identity_iff (freshConnection 3) (frameHeap (ctlFrame 1 0x72 0x64)) 0 18 plainContext true
    (ctlEnv true) getRequest.1 getRequest.2 getNode getRequest_eq getNode_eq
    [receivedFrame true (ctlFrame 0x45 0x72 0x64)] _ rfl (getNode_found 3) (resultFor "r" "d") (by decide)
    ⟨⟨true, true⟩, true⟩ (getResponse 0x72 0x64) ?_).mpr ?_
  · decide
  · decide

/-- A packet with other ids at the same places is received before the device answers: the answer carries them. -/
theorem async_response_identity_lost :
    (ctlOutcome (run ctlStep (freshConnection 3)
        [receivedFrame true (ctlFrame 1 0x72 0x64), receivedFrame true (ctlFrame 0x45 0x78 0x79)])
      (.answer (resultFor "r" "d") ⟨⟨true, true⟩, true⟩)).2 = some (.response (getResponse 0x78 0x79)) ∧
    ¬ CarriesIdentity (getResponse 0x78 0x79) getRequest.1 getRequest.2 := by
  constructor
  · decide
  · rintro ⟨-, -, hreqId, -⟩
    exact absurd hreqId (by decide)

end IotConnect.Cloud.Link
