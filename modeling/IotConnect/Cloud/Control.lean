import IotConnect.Coap.TcpV1
import IotConnect.Endpoint.Server
import IotConnect.Foundations.Trace
import IotConnect.Transport.Session

/-! # Messages of the cloud link (`m2m_cloud_send.c`, `m2m_cloud_report.c`, `m2m_cloud_ctl.c`,
`m2m_cloud_response.c`)

The four ways in which the device sends a message with a sequence number, and the list of the control requests
that are kept for a later answer. The counter is made with the link, from zero or from a random number. A kept
request is the parsed packet, and the options of a parsed packet point into the receive buffer that all links
share. So the memory is part of the state, and whatever is received leaves another memory behind. -/
namespace IotConnect.Cloud.Link
open Bytes Coap Endpoint Memory Transport
set_option autoImplicit false

def coapOptionTypeAccessTokenId : UInt16 := 2049
def coapOptionTypeReqId : UInt16 := 2050
def coapOptionTypeDevId : UInt16 := 2051
def coapOptionTypeUserId : UInt16 := 2052
def coapOptionTypeSeqNumId : UInt16 := 2053
def iotcSvcIdStrMaxLen : ℕ := 63

/-! ## The sequence number -/

/-- The four bytes of `IotcHtonl (seq)`. -/
def htonl (seq : UInt32) : List UInt8 := toBytes 4 seq.toNat

/-- The four bytes of a `uint32_t` as the processor keeps it. -/
def hostBytes (bigEndian : Bool) (seq : UInt32) : List UInt8 :=
  if bigEndian then htonl seq else (htonl seq).reverse

/-- What a sender cannot foresee: whether there is a send buffer and the message is encoded into it, and whether
the link takes the message. -/
structure SendEnv where
  encodes : Bool
  links : Bool

/-- The counter of the link, and the sequence number option of the message in the send buffer. -/
structure SeqMsg where
  seq : UInt32
  option : BuildData

/-- `CloudTlsSessSendUpdateSeqProcess` and its copy for TCP, on a message that has the option. Without an address
it returns `false`, which is the code of success. -/
def cloudSessSendUpdateSeqProcess (addr : Bool) (m : SeqMsg) : SessCode × SeqMsg :=
  if addr = false then (.ok, m)
  else
    match m.option with
    | .null _ => (.err, m)
    | .bytes data => if data.length ≠ 4 then (.err, m) else (.continue, ⟨m.seq + 1, .bytes (htonl m.seq)⟩)

def coapEndpointSendPacket (env : SendEnv) (addr : Bool) (m : SeqMsg) : UInt32 × Option (List UInt8) :=
  if env.encodes = false then (m.seq, none)
  else
    match transSessMsgCorNodeProcess [cloudSessSendUpdateSeqProcess addr] m with
    | (false, m) => (m.seq, none)
    | (true, m) => (m.seq, if env.links then some m.option.sent else none)

/-! ## Requests and reports -/

/-- The allocations of a request, and whether its JSON text was made. -/
structure RequestEnv where
  callocOps : Bool
  mallocSeq : Bool
  reqJson : Bool
  send : SendEnv

/-- `M2mCloudSendRequest` with `BuildCloudOption`. The counter is stepped before anything is sent, and without
memory for its value the option has a null pointer. -/
def m2mCloudSendRequest (env : RequestEnv) (seq : UInt32) : UInt32 × Option (List UInt8) :=
  if env.callocOps = false then (seq, none)
  else
    let option := if env.mallocSeq then BuildData.bytes (htonl seq) else .null 4
    let seq := seq + 1
    if env.reqJson = false then (seq, none) else coapEndpointSendPacket env.send false ⟨seq, option⟩

def m2mCloudReportMessage (reportJson : Bool) (env : SendEnv) (seq : UInt32) : UInt32 × Option (List UInt8) :=
  if reportJson = false then (seq, none) else coapEndpointSendPacket env false ⟨seq, .null 4⟩

/-! ## Responses -/

/-- A response JSON the code has a pointer to: null, or how often it has been freed. -/
abbrev JsonPtr := Option ℕ

/-- `IotcJsonDelete`, and `IotcFree` of what it has freed. -/
def JsonPtr.free (json : JsonPtr) : JsonPtr := json.map (· + 1)

/-- `CoapUtilsBuildJsonPayloadFunc` refuses a null pointer, so that the message is not encoded. -/
def SendEnv.payload (env : SendEnv) (json : JsonPtr) : SendEnv := { env with encodes := env.encodes && json.isSome }

structure CtlResponse where
  header : CoapHeader
  token : List UInt8
  options : List (UInt16 × List UInt8)
deriving DecidableEq

def CtlResponse.value (r : CtlResponse) (option : UInt16) : Option (List UInt8) := r.options.lookup option

def tokenBytes (pkt : CoapPacket) : List UInt8 := load pkt.token 0 pkt.header.tkl.val

def coapServerSendResp (env : SendEnv) (req : CoapPacket) (options : List (UInt16 × List UInt8))
    (seqOption : List UInt8) (seq : UInt32) : UInt32 × Option CtlResponse :=
  if coapTokenMaxLen < req.header.tkl.val then (seq, none)
  else
    let type : Fin 4 := if req.header.type = 0 then 2 else 1
    let (seq, sent) := coapEndpointSendPacket env true ⟨seq, .bytes seqOption⟩
    (seq, sent.map fun bytes =>
      ⟨⟨0, type, req.header.tkl, 0x45, req.header.msgId⟩, tokenBytes req,
        options ++ [(coapOptionTypeSeqNumId, bytes)]⟩)

/-! ## Kept requests -/

def rawAt (heap : ℕ → UInt8) (base len : ℕ) : CoapRaw := ⟨fun i => heap (base + i), len⟩

/-- `base` is the address the pointers of `req` count from, `len` the length of the message there. -/
structure CoapResponeNode where
  base : ℕ
  len : ℕ
  req : CoapPacket
  msgId : List UInt8
  devId : List UInt8

/-- The value of an option of a kept request, as it is found in the memory. -/
def CoapResponeNode.option (node : CoapResponeNode) (heap : ℕ → UInt8) (option : UInt16) : Option (List UInt8) :=
  coapSingleOption node.req (rawAt heap node.base node.len) option

structure CtlState where
  seq : UInt32
  access : List UInt8
  heap : ℕ → UInt8
  responseList : List CoapResponeNode

/-- What the device says to a read request; without its API it is not asked. -/
inductive GetCharResult
  | noApi
  | failed
  | ok
deriving DecidableEq

/-- What the control handler cannot foresee. -/
structure CtlEnv where
  bigEndian : Bool
  /-- Whether `IotcJsonParseWithLen` takes a payload. -/
  parses : List UInt8 → Bool
  /-- Whether everything is allocated in `ParseCloudCtlMsg`, in `M2mCloudCreateCoapNode` and for the response. -/
  dataMem : Bool
  nodeMem : Bool
  respMem : Bool
  getChar : GetCharResult
  send : SendEnv

def parseCloudCtlMsg (env : CtlEnv) (req : CoapPacket) (raw : CoapRaw) : Bool :=
  ((coapSingleOption req raw coapOptionTypeUriPath).any fun svcId => (cString svcId).length < iotcSvcIdStrMaxLen) &&
    (coapSingleOption req raw coapOptionTypeReqId).isSome && (coapSingleOption req raw coapOptionTypeDevId).isSome &&
    (req.header.code = coapMethodTypeGet ||
      (req.payload.data ≠ none && req.payload.len ≠ 0 && env.parses (raw.read req.payload))) && env.dataMem

def m2mCloudCreateCoapNode (env : CtlEnv) (base : ℕ) (req : CoapPacket) (raw : CoapRaw) : Option CoapResponeNode :=
  match coapSingleOption req raw coapOptionTypeReqId, coapSingleOption req raw coapOptionTypeDevId with
  | some reqId, some devId =>
    if env.nodeMem then some ⟨base, raw.len, req, cString reqId, cString devId⟩ else none
  | _, _ => none

/-- `ValidateRequiredCoapOptions` and the options `BuildCloudCtlRespMsg` makes of them. -/
def ctlRespOptions (access : List UInt8) (req : CoapPacket) (raw : CoapRaw) : Option (List (UInt16 × List UInt8)) :=
  match coapSingleOption req raw coapOptionTypeUriPath, coapSingleOption req raw coapOptionTypeReqId,
    coapSingleOption req raw coapOptionTypeDevId, coapSingleOption req raw coapOptionTypeUserId with
  | some uri, some reqId, some devId, some userId =>
    some [(coapOptionTypeUriPath, if req.header.code = coapMethodTypePost then ascii "devControl" else uri),
      (coapOptionTypeAccessTokenId, cString access), (coapOptionTypeReqId, reqId), (coapOptionTypeDevId, devId),
      (coapOptionTypeUserId, userId)]
  | _, _, _, _ => none

def buildCloudCtlRespMsg (env : CtlEnv) (access : List UInt8) (req : CoapPacket) (raw : CoapRaw) (respJson : JsonPtr)
    (seq : UInt32) : UInt32 × Option CtlResponse :=
  match ctlRespOptions access req raw with
  | none => (seq, none)
  | some options =>
    coapServerSendResp (env.send.payload respJson) req options (hostBytes env.bigEndian (seq + 1)) (seq + 1)

/-- `DevSvcProxyCtlGetCharStates` with `DeviceControlGetCharStates`: the pointer to the response JSON that it leaves, and
how often the JSON has been freed to which nothing points any more. The device makes an array of its own and does not
free what it finds, unless it fails. -/
def devSvcProxyCtlGetCharStates (result : GetCharResult) (respJson : JsonPtr) : JsonPtr × List ℕ :=
  match result with
  | .noApi => (respJson, [])
  | .failed => (none, respJson.free.toList)
  | .ok => (some 0, respJson.toList)

/-- The response JSON from its creation to the response. -/
def ctlRespJson (env : CtlEnv) (req : CoapPacket) : JsonPtr × List ℕ :=
  if req.header.code = coapMethodTypeGet then devSvcProxyCtlGetCharStates env.getChar (some 0) else (some 0, [])

/-- `SendCloudCtlMsgResp`, with how often each response JSON has been freed in it. -/
def sendCloudCtlMsgResp (env : CtlEnv) (base : ℕ) (req : CoapPacket) (raw : CoapRaw) (s : CtlState) :
    CtlState × Option CtlResponse × List ℕ :=
  if parseCloudCtlMsg env req raw = false then (s, none, [])
  else
    match m2mCloudCreateCoapNode env base req raw with
    | none => (s, none, [])
    | some node =>
      let s := { s with responseList := s.responseList ++ [node] }
      if env.respMem = false then (s, none, [])
      else
        let (respJson, lost) := ctlRespJson env req
        let (seq, sent) := buildCloudCtlRespMsg env s.access req raw respJson s.seq
        ({ s with seq := seq }, sent, lost ++ respJson.free.toList)

def extractResponseOptions (access : List UInt8) (node : CoapResponeNode) (heap : ℕ → UInt8) :
    Option (List (UInt16 × List UInt8) × List UInt8) :=
  match node.option heap coapOptionTypeReqId, node.option heap coapOptionTypeDevId,
    node.option heap coapOptionTypeUserId, node.option heap coapOptionTypeSeqNumId with
  | some reqId, some devId, some userId, some seqId =>
    some ([(coapOptionTypeAccessTokenId, cString access), (coapOptionTypeReqId, reqId), (coapOptionTypeDevId, devId),
      (coapOptionTypeUserId, userId)], seqId)
  | _, _, _, _ => none

/-- `M2mCloudCtrlResponseMsg`, which frees the response JSON in any case. -/
def m2mCloudCtrlResponseMsg (env : SendEnv) (s : CtlState) (node : CoapResponeNode) (respJson : JsonPtr) :
    (UInt32 × Option CtlResponse) × JsonPtr :=
  match extractResponseOptions s.access node s.heap with
  | none => ((s.seq, none), respJson.free)
  | some (options, seqId) => (coapServerSendResp (env.payload respJson) node.req options seqId s.seq, respJson.free)

/-- A member `devid` or `msg_id` of an element of the result: whether `strcmp` finds `"0"` in it, which is given the
object and not its text, and the text of the copy that is made of it, if there is memory for one. -/
structure IdMember where
  zero : Bool
  copy : Option (List UInt8)

structure ResultItem where
  devId : Option IdMember
  msgId : Option IdMember

def saveId (saved : Option (List UInt8)) (member : Option IdMember) : Option (List UInt8) :=
  match saved, member with
  | none, some id => if id.zero then none else id.copy
  | saved, _ => saved

/-- `GetResponeDevMsgId`: the device id and the message id. -/
def getResponeDevMsgId (dataArray : List ResultItem) : Option (List UInt8) × Option (List UInt8) :=
  dataArray.foldl (fun saved item => (saveId saved.1 item.devId, saveId saved.2 item.msgId)) (none, none)

/-- The ids of a result that has both. -/
def resultIds (dataArray : List ResultItem) : Option (List UInt8 × List UInt8) :=
  match getResponeDevMsgId dataArray with
  | (some devId, some msgId) => some (devId, msgId)
  | _ => none

/-- The test of `M2mCloudFindNodeByMsgId`. -/
def CoapResponeNode.answers (node : CoapResponeNode) (msgId devId : List UInt8) : Bool :=
  node.msgId = msgId && node.devId = devId

/-- What an answer of the device cannot foresee: whether there is memory for a copy of it, and the sending. -/
structure AnswerEnv extends SendEnv where
  copyMem : Bool

/-- `M2mCloudResponseMessage`, with the copy of the result, which is freed behind `M2mCloudCtrlResponseMsg` again. -/
def m2mCloudResponseMessage (env : AnswerEnv) (dataArray : List ResultItem) (s : CtlState) :
    CtlState × Option CtlResponse × JsonPtr :=
  match resultIds dataArray with
  | none => (s, none, none)
  | some (devId, msgId) =>
    match s.responseList.find? fun node => node.answers msgId devId with
    | none => (s, none, none)
    | some node =>
      let dataArrayRespone : JsonPtr := if env.copyMem then some 0 else none
      let ((seq, sent), dataArrayRespone) := m2mCloudCtrlResponseMsg env.toSendEnv s node dataArrayRespone
      ({ s with seq := seq, responseList := s.responseList.eraseP fun node => node.answers msgId devId }, sent,
        dataArrayRespone.free)

/-! ## The system -/

inductive CtlHandler
  | control
  | devDel
deriving DecidableEq

def m2mCloudServer : CoapEndpointServer CtlHandler where
  resList := [[⟨[coapMethodTypePost], ascii ".sys/delDevice", none, some .devDel⟩]]
  globalChecker := none
  defaultHandler := some .control

inductive CtlEvent
  | request (env : RequestEnv)
  | report (reportJson : Bool) (env : SendEnv)
  /-- A message of `len` bytes has been received at the address `base` of the memory `heap`. -/
  | receive (heap : ℕ → UInt8) (base len : ℕ) (ctx : M2mCloudContext) (lock : Bool) (env : CtlEnv)
  /-- The receive buffer is used by another link. -/
  | other (heap : ℕ → UInt8)
  | answer (dataArray : List ResultItem) (env : AnswerEnv)

/-- The packet a received message is decoded to, if it is a request for the control handler, and the message it
points into, which has been decrypted where it lies. -/
def controlRequest (ctx : M2mCloudContext) (lock : Bool) (raw : CoapRaw) : Option (CoapPacket × CoapRaw) :=
  match coapTcpV1Decode ctx CoapPacket.init raw with
  | .error _ => none
  | .ok (pkt, raw) =>
    if isRequest pkt && (coapEndpointServerRecvReqPacket lock m2mCloudServer pkt raw).2 = some .control then
      some (pkt, raw)
    else none

/-- The memory after the message at `base` has been decoded. -/
def decodedHeap (ctx : M2mCloudContext) (heap : ℕ → UInt8) (base len : ℕ) : ℕ → UInt8 :=
  match coapTcpV1Decode ctx CoapPacket.init (rawAt heap base len) with
  | .error _ => heap
  | .ok (_, raw) => fun i => if base ≤ i then raw.data (i - base) else heap i

inductive CtlSent
  | request (seq : List UInt8)
  | report (seq : List UInt8)
  | response (r : CtlResponse)
deriving DecidableEq

def ctlOutcome (s : CtlState) : CtlEvent → CtlState × Option CtlSent
  | .request env =>
    let (seq, sent) := m2mCloudSendRequest env s.seq
    ({ s with seq := seq }, sent.map .request)
  | .report reportJson env =>
    let (seq, sent) := m2mCloudReportMessage reportJson env s.seq
    ({ s with seq := seq }, sent.map .report)
  | .receive heap base len ctx lock env =>
    let s := { s with heap := decodedHeap ctx heap base len }
    match controlRequest ctx lock (rawAt heap base len) with
    | none => (s, none)
    | some (req, raw) =>
      let (s, sent, _) := sendCloudCtlMsgResp env base req raw s
      (s, sent.map .response)
  | .other heap => ({ s with heap := heap }, none)
  | .answer dataArray env =>
    let (s, sent, _) := m2mCloudResponseMessage env dataArray s
    (s, sent.map .response)

def ctlStep (s : CtlState) (e : CtlEvent) : CtlState := (ctlOutcome s e).1

end IotConnect.Cloud.Link
