import IotConnect.Coap.Udp
import IotConnect.Endpoint.Client
import IotConnect.Endpoint.Server
import IotConnect.Foundations.Trace
import IotConnect.Transport.Session

/-! # Retransmission (`coap_endpoint_retrans.c`, `coap_endpoint.c`)

An endpoint keeps the packets it has sent and sends them again after a while. A request with the message id, the
token and the address of a kept packet is answered with the bytes of that packet. The list does not say which of
its packets are responses, so a request of the endpoint itself can be taken for one. -/
namespace IotConnect.Endpoint
open Coap Memory Transport
set_option autoImplicit false

/-! ## Exchanges -/

/-- What a request and its response have in common. -/
structure Exchange where
  msgId : UInt16
  token : List UInt8
  addr : SocketAddr
  deriving DecidableEq

def tokenArray (token : List UInt8) : List UInt8 := load (store (fun _ => 0) 0 token) 0 coapTokenMaxLen

theorem tokenArray_take {token : List UInt8} (h : token.length ≤ coapTokenMaxLen) :
    (tokenArray token).take token.length = token := by
  have hlen : coapTokenMaxLen = token.length + (coapTokenMaxLen - token.length) := by omega
  rw [tokenArray, hlen, load_add, load_store_self, List.take_left]

theorem tokenArray_inj {token token' : List UInt8} (h : token.length ≤ coapTokenMaxLen)
    (hlen : token.length = token'.length) (heq : tokenArray token = tokenArray token') : token = token' := by
  rw [← tokenArray_take h, heq, hlen, tokenArray_take (hlen ▸ h)]

theorem load_store_load (m token : ℕ → UInt8) (n : ℕ) :
    load (store m 0 (load token 0 n)) 0 n = load token 0 n := by
  have h := load_store_self m 0 (load token 0 n)
  rwa [load_length] at h

/-- A packet as it comes to the endpoint: the session has cleared it before it was decoded. -/
structure Received where
  pkt : CoapPacket
  raw : CoapRaw
  addr : SocketAddr
  tkl_le : pkt.header.tkl.val ≤ coapTokenMaxLen
  token_rest : ∀ i, pkt.header.tkl.val ≤ i → pkt.token i = 0

namespace Received

def ofDatagram (raw : CoapRaw) (addr : SocketAddr) : Option Received :=
  match h : coapUdpDecode CoapPacket.init raw with
  | .error _ => none
  | .ok pkt => some ⟨pkt, raw, addr, (coapUdpDecode_token h).1, (coapUdpDecode_token h).2⟩

def exchange (d : Received) : Exchange :=
  ⟨d.pkt.header.msgId, load d.pkt.token 0 d.pkt.header.tkl.val, d.addr⟩

theorem load_token (d : Received) : load d.pkt.token 0 coapTokenMaxLen = tokenArray d.exchange.token := by
  refine load_congr _ _ 0 coapTokenMaxLen fun k _ => ?_
  have hlen : d.exchange.token.length = d.pkt.header.tkl.val := load_length _ _ _
  by_cases hk : k < d.exchange.token.length
  · rw [store_apply_mid _ _ _ _ hk]
    exact (load_getElem d.pkt.token 0 _ k hk).symm
  · rw [store_apply_ge _ _ _ _ (by omega)]
    exact d.token_rest _ (by omega)

end Received

/-! ## The list -/

structure CoapRetransParam where
  msgId : UInt16
  tkl : ℕ
  token : List UInt8
  cnt : UInt8
  addr : SocketAddr

/-- What a kept packet is, which the endpoint does not know: the exchange it is of, whether it answers a request
that was received, and the bytes that were given to the link. -/
structure Sent where
  exchange : Exchange
  answers : Bool
  bytes : List UInt8

structure CoapRetransNode where
  param : CoapRetransParam
  raw : List UInt8
  remainTime : UInt32
  lastTime : UInt32
  sent : Sent

/-- `enabled` says whether there is a `retransCheck`. -/
structure CoapEndpointRetrans where
  enabled : Bool
  maxBufSize : UInt32
  curBufSize : UInt32
  retransList : List CoapRetransNode

/-- What `CoapEndpointRetransEnable` makes of a new endpoint. -/
def CoapEndpointRetrans.start (maxBufSize : UInt32) : CoapEndpointRetrans := ⟨true, maxBufSize, 0, []⟩

/-- What a call finds: the lock, the memory, the time and what `retransCheck` says of a packet, which is the time
to its next sending. -/
structure RetransEnv where
  lock : Bool
  malloc : Bool
  now : UInt32
  check : CoapRetransParam → List UInt8 → Option UInt32

def retransNodeNew (env : RetransEnv) (sent : Sent) (pkt : CoapPacket) (raw : List UInt8) (addr : SocketAddr) :
    Option CoapRetransNode :=
  if env.malloc = false ∨ coapTokenMaxLen < pkt.header.tkl.val then none
  else
    let tkl := pkt.header.tkl.val
    some { param := ⟨pkt.header.msgId, tkl, tokenArray (load pkt.token 0 tkl), 0, addr⟩
           raw := raw
           remainTime := 0
           lastTime := 0
           sent := sent }

def coapRetransAddPacket (env : RetransEnv) (sent : Sent) (pkt : CoapPacket) (raw : List UInt8) (addr : SocketAddr)
    (retrans : CoapEndpointRetrans) : IotcRet × CoapEndpointRetrans :=
  if raw = [] then (.errParamInvalid, retrans)
  else if retrans.enabled = false then (.ok, retrans)
  else if env.lock = false then (.errTimeout, retrans)
  else if retrans.maxBufSize - retrans.curBufSize < raw.length.toUInt32 then (.coapRetransBufferOverSize, retrans)
  else
    match retransNodeNew env sent pkt raw addr with
    | none => (.coapRetransNodeNew, retrans)
    | some newNode =>
      match env.check newNode.param newNode.raw with
      | none => (.coapRetransCheck, retrans)
      | some remainTime =>
        (.ok, { retrans with
          curBufSize := retrans.curBufSize + newNode.raw.length.toUInt32
          retransList := retrans.retransList ++ [{ newNode with remainTime := remainTime, lastTime := env.now }] })

def CoapRetransNode.elapse (cur : UInt32) (node : CoapRetransNode) : CoapRetransNode :=
  let delta := utilsDeltaTime cur node.lastTime
  { node with remainTime := if node.remainTime < delta then 0 else node.remainTime - delta, lastTime := cur }

def coapEndpointRetransCheck (cur : UInt32) (retrans : CoapEndpointRetrans) : CoapEndpointRetrans :=
  if cur = 0 then retrans else { retrans with retransList := retrans.retransList.map (CoapRetransNode.elapse cur) }

/-- The loop of `CoapEndpointRetransDispatch`: what is sent, the size of what is kept, and what is kept. -/
def retransDispatch (env : RetransEnv) (enabled : Bool) : UInt32 → List CoapRetransNode →
    List (List UInt8 × SocketAddr) × UInt32 × List CoapRetransNode
  | curBufSize, [] => ([], curBufSize, [])
  | curBufSize, node :: rest =>
    if node.remainTime ≠ 0 then
      let (out, size, kept) := retransDispatch env enabled curBufSize rest
      (out, size, node :: kept)
    else
      let param := { node.param with cnt := node.param.cnt + 1 }
      match if enabled then env.check param node.raw else none with
      | some remainTime =>
        let (out, size, kept) := retransDispatch env enabled curBufSize rest
        ((node.raw, node.param.addr) :: out, size, { node with param := param, remainTime := remainTime } :: kept)
      | none =>
        let len := node.raw.length.toUInt32
        let freed := if len < curBufSize then curBufSize - len else 0
        let (out, size, kept) := retransDispatch env enabled freed rest
        ((node.raw, node.param.addr) :: out, size, kept)

def coapEndpointRetransDispatch (env : RetransEnv) (retrans : CoapEndpointRetrans) :
    List (List UInt8 × SocketAddr) × CoapEndpointRetrans :=
  if env.lock = false then ([], retrans)
  else
    let (out, size, kept) := retransDispatch env retrans.enabled retrans.curBufSize retrans.retransList
    (out, { retrans with curBufSize := size, retransList := kept })

def CoapRetransNode.matches (node : CoapRetransNode) (pkt : CoapPacket) (addr : SocketAddr) : Bool :=
  node.param.msgId = pkt.header.msgId ∧ node.param.addr.addr = addr.addr ∧ node.param.addr.port = addr.port ∧
    node.param.tkl = pkt.header.tkl.val ∧ node.param.token = load pkt.token 0 coapTokenMaxLen

def coapEndpointRecvPacketRetransProcess (pkt : CoapPacket) (addr : SocketAddr) (retrans : CoapEndpointRetrans) :
    Option CoapRetransNode :=
  retrans.retransList.find? fun node => node.matches pkt addr

/-! ## The endpoint -/

structure RetransEndpoint (H C : Type) where
  server : CoapEndpointServer H
  client : CoapEndpoint C
  retrans : CoapEndpointRetrans

variable {H C : Type}

/-- The outcomes of the locks of the server and the client, and of the sweep of the client. -/
structure RecvEnv where
  serverLock : Bool
  clientLock : Bool
  sweep : SweepEnv

inductive RecvOutcome (H : Type)
  | resent (raw : List UInt8) (addr : SocketAddr)
  | served (ret : IotcRet) (handler : Option H)
  | response (ret : IotcRet)
  deriving DecidableEq

def coapEndpointRecvPacket (env : RecvEnv) (d : Received) (s : RetransEndpoint H C) :
    RecvOutcome H × RetransEndpoint H C :=
  if isRequest d.pkt then
    match coapEndpointRecvPacketRetransProcess d.pkt d.addr s.retrans with
    | some node => (.resent node.raw node.param.addr, s)
    | none =>
      let (ret, handler) := coapEndpointServerRecvReqPacket env.serverLock s.server d.pkt d.raw
      (.served ret handler, s)
  else
    let (ret, client) := coapEndpointClientRecvRespPacket env.clientLock env.sweep d.pkt s.client
    (.response ret, { s with client := client })

/-- The buffer a packet is encoded in, grown to its estimated size, and `TransSessMsgSend`, whose handlers may
rewrite the buffer but not the header and the token of the packet. -/
structure PacketEnv where
  buffer : Except IotcErr CoapBuffer
  transSessMsgSend : CoapBuffer → IotcRet × CoapBuffer
  retrans : RetransEnv

def sentBytes (buf : CoapBuffer) : List UInt8 := load buf.buffer 0 buf.len

def coapEndpointSendPacket (env : PacketEnv) (answers : Bool) (exchange : Exchange) (build : CoapBuildPacket)
    (retrans : CoapEndpointRetrans) : IotcRet × CoapPacket × CoapEndpointRetrans :=
  match env.buffer with
  | .error ret => (ret.val, CoapPacket.init, retrans)
  | .ok buf =>
    let (ret, pkt, buf) := coapUdpEncode build CoapPacket.init buf
    if ret ≠ .ok then (ret, pkt, retrans)
    else
      let (ret, buf) := env.transSessMsgSend buf
      if ret ≠ .ok then (ret, pkt, retrans)
      else
        let sent : Sent := ⟨exchange, answers, sentBytes buf⟩
        -- that a packet could not be kept is no error
        (.ok, pkt, (coapRetransAddPacket env.retrans sent pkt (sentBytes buf) exchange.addr retrans).2)

structure CoapServerRespParam where
  type : Fin 4
  code : UInt8
  options : List BuildOption
  payload : Option BuildData
  payloadBuilder : Option (CoapBuffer → Int × List UInt8)

def respPacket (param : CoapServerRespParam) (req : CoapPacket) : CoapBuildPacket where
  header := ⟨0, if req.header.type = 0 then 2 else param.type, req.header.tkl, param.code, req.header.msgId⟩
  token := store (fun _ => 0) 0 (load req.token 0 req.header.tkl.val)
  options := param.options
  payload := param.payload
  buildFunc := param.payloadBuilder

def coapServerSendResp (env : PacketEnv) (param : CoapServerRespParam) (req : Received) (s : RetransEndpoint H C) :
    IotcRet × RetransEndpoint H C :=
  let (ret, _, retrans) := coapEndpointSendPacket env true req.exchange (respPacket param req.pkt) s.retrans
  (ret, { s with retrans := retrans })

def buildExchange (build : CoapBuildPacket) (addr : SocketAddr) : Exchange :=
  ⟨build.header.msgId, load build.token 0 build.header.tkl.val, addr⟩

/-- `CoapClientSendReq` with its `CoapEndpointSendPacket`. -/
def endpointSendReq (env : SendEnv) (packet : PacketEnv) (param : CoapClientReqParam C) (addr : SocketAddr)
    (s : RetransEndpoint H C) : IotcRet × RetransEndpoint H C :=
  let (msgId, cli) := getMsgId env.msgIdLock s.client.client
  let build := reqPacket param msgId cli.tkl env.random
  let (ret, pkt, retrans) := coapEndpointSendPacket packet false (buildExchange build addr) build s.retrans
  let (ret, client) := coapClientSendReq { env with sendPacket := fun _ _ => (ret, pkt) } param s.client
  (ret, { s with client := client, retrans := retrans })

inductive RetransEvent (C : Type)
  | recv (env : RecvEnv) (d : Received)
  | respond (env : PacketEnv) (param : CoapServerRespParam) (req : Received)
  | request (env : SendEnv) (packet : PacketEnv) (param : CoapClientReqParam C) (addr : SocketAddr)
  | check (cur : UInt32)
  | dispatch (sweep : SweepEnv) (env : RetransEnv)

def retransStep (s : RetransEndpoint H C) : RetransEvent C → RetransEndpoint H C
  | .recv env d => (coapEndpointRecvPacket env d s).2
  | .respond env param req => (coapServerSendResp env param req s).2
  | .request env packet param addr => (endpointSendReq env packet param addr s).2
  | .check cur => { s with retrans := coapEndpointRetransCheck cur s.retrans }
  | .dispatch sweep env => { s with
      client := coapClientRespTimeoutCheck sweep s.client
      retrans := (coapEndpointRetransDispatch env s.retrans).2 }

def RetransEndpoint.start (server : CoapEndpointServer H) (client : CoapEndpoint C) (maxBufSize : UInt32) :
    RetransEndpoint H C := ⟨server, client, .start maxBufSize⟩

/-! ## What is kept -/

/-- A node is that of the packet that was sent. -/
structure CoapRetransNode.Faithful (node : CoapRetransNode) : Prop where
  msgId : node.param.msgId = node.sent.exchange.msgId
  tkl : node.param.tkl = node.sent.exchange.token.length
  token : node.param.token = tokenArray node.sent.exchange.token
  addr : node.param.addr = node.sent.exchange.addr
  raw : node.raw = node.sent.bytes

def CoapEndpointRetrans.Faithful (retrans : CoapEndpointRetrans) : Prop :=
  ∀ node ∈ retrans.retransList, node.Faithful

theorem CoapRetransNode.Faithful.matches_iff {node : CoapRetransNode} (h : node.Faithful) (d : Received) :
    node.matches d.pkt d.addr = true ↔ node.sent.exchange = d.exchange := by
  rw [CoapRetransNode.matches, decide_eq_true_iff, d.load_token, h.msgId, h.tkl, h.token, h.addr]
  have hlen : d.exchange.token.length = d.pkt.header.tkl.val := load_length _ _ _
  constructor
  · rintro ⟨hmsgId, haddr, hport, htkl, htoken⟩
    rw [← hlen] at htkl
    have htok : node.sent.exchange.token = d.exchange.token :=
      tokenArray_inj (by rw [htkl, hlen]; exact d.tkl_le) htkl htoken
    cases hsent : node.sent.exchange with
    | mk msgId token addr =>
      rw [hsent] at hmsgId haddr hport htok
      cases addr
      dsimp only at hmsgId haddr hport htok
      subst hmsgId haddr hport htok
      rfl
  · intro heq
    rw [heq]
    exact ⟨rfl, rfl, rfl, hlen, rfl⟩

theorem coapRetransAddPacket_faithful {sent : Sent} {pkt : CoapPacket} {retrans : CoapEndpointRetrans}
    (env : RetransEnv) (hmsgId : pkt.header.msgId = sent.exchange.msgId)
    (htoken : load pkt.token 0 pkt.header.tkl.val = sent.exchange.token) (h : retrans.Faithful) :
    (coapRetransAddPacket env sent pkt sent.bytes sent.exchange.addr retrans).2.Faithful := by
  unfold coapRetransAddPacket retransNodeNew
  by_cases hnew : env.malloc = false ∨ coapTokenMaxLen < pkt.header.tkl.val
  · rw [if_pos hnew]
    split_ifs <;> exact h
  rw [if_neg hnew]
  dsimp only
  split_ifs
  iterate 4 exact h
  split
  · exact h
  intro node hnode
  rcases List.mem_append.mp hnode with hold | hlast
  · exact h node hold
  · rw [List.mem_singleton.mp hlast]
    have htkl : pkt.header.tkl.val = sent.exchange.token.length := by rw [← htoken, load_length]
    exact ⟨hmsgId, htkl, by rw [htoken], rfl, rfl⟩

theorem CoapRetransNode.Faithful.again {node : CoapRetransNode} (h : node.Faithful) (cnt : UInt8)
    (remainTime lastTime : UInt32) :
    CoapRetransNode.Faithful
      { node with param := { node.param with cnt := cnt }, remainTime := remainTime, lastTime := lastTime } :=
  ⟨h.msgId, h.tkl, h.token, h.addr, h.raw⟩

theorem coapEndpointRetransCheck_faithful {retrans : CoapEndpointRetrans} (cur : UInt32) (h : retrans.Faithful) :
    (coapEndpointRetransCheck cur retrans).Faithful := by
  unfold coapEndpointRetransCheck
  split_ifs
  · exact h
  intro node hnode
  obtain ⟨node', hnode', rfl⟩ := List.mem_map.mp hnode
  exact (h node' hnode').again _ _ _

theorem retransDispatch_faithful (env : RetransEnv) (enabled : Bool) {nodes : List CoapRetransNode}
    (h : ∀ node ∈ nodes, node.Faithful) (curBufSize : UInt32) :
    ∀ node ∈ (retransDispatch env enabled curBufSize nodes).2.2, node.Faithful := by
  induction nodes generalizing curBufSize with
  | nil => exact h
  | cons node rest ih =>
    have hnode := h node List.mem_cons_self
    have hrest := ih fun node hmem => h node (List.mem_cons_of_mem _ hmem)
    rw [retransDispatch]
    dsimp only
    split
    · exact List.forall_mem_cons.mpr ⟨hnode, hrest curBufSize⟩
    split
    · exact List.forall_mem_cons.mpr ⟨hnode.again _ _ _, hrest curBufSize⟩
    · exact hrest _

theorem coapEndpointSendPacket_faithful {retrans : CoapEndpointRetrans} (env : PacketEnv) (answers : Bool)
    (build : CoapBuildPacket) (addr : SocketAddr) (h : retrans.Faithful) :
    (coapEndpointSendPacket env answers (buildExchange build addr) build retrans).2.2.Faithful := by
  unfold coapEndpointSendPacket
  cases env.buffer with
  | error ret => exact h
  | ok buf =>
    dsimp only
    by_cases hencode : (coapUdpEncode build CoapPacket.init buf).1 = .ok
    · rw [if_neg (not_not.mpr hencode)]
      split_ifs
      · exact h
      · obtain ⟨hheader, htoken⟩ := coapUdpEncode_packet hencode
        refine @coapRetransAddPacket_faithful ⟨buildExchange build addr, answers, _⟩ _ _ _ ?_ ?_ h
        · rw [hheader]
          rfl
        · rw [hheader, htoken]
          exact load_store_load _ _ _
    · rw [if_pos hencode]
      exact h

theorem respPacket_exchange (param : CoapServerRespParam) (req : Received) :
    buildExchange (respPacket param req.pkt) req.addr = req.exchange :=
  congrArg (Exchange.mk _ · req.addr) (load_store_load _ req.pkt.token req.pkt.header.tkl.val)

theorem coapEndpointRecvPacket_retrans (env : RecvEnv) (d : Received) (s : RetransEndpoint H C) :
    (coapEndpointRecvPacket env d s).2.retrans = s.retrans := by
  unfold coapEndpointRecvPacket
  split_ifs
  · split <;> rfl
  · rfl

theorem retransStep_faithful (s : RetransEndpoint H C) (e : RetransEvent C) (h : s.retrans.Faithful) :
    (retransStep s e).retrans.Faithful := by
  cases e with
  | recv env d =>
    rw [retransStep, coapEndpointRecvPacket_retrans]
    exact h
  | respond env param req =>
    rw [retransStep, coapServerSendResp, ← respPacket_exchange param req]
    exact coapEndpointSendPacket_faithful env true _ req.addr h
  | request env packet param addr => exact coapEndpointSendPacket_faithful packet false _ addr h
  | check cur => exact coapEndpointRetransCheck_faithful cur h
  | dispatch sweep env =>
    rw [retransStep, coapEndpointRetransDispatch]
    split_ifs
    · exact h
    · exact retransDispatch_faithful env _ h _

/-! ## Duplicates -/

/-- A packet of an exchange is kept: a response, or a request of the endpoint itself. -/
def RetransEndpoint.Keeps (s : RetransEndpoint H C) (answers : Bool) (e : Exchange) : Prop :=
  ∃ node ∈ s.retrans.retransList, node.sent.answers = answers ∧ node.sent.exchange = e

instance (s : RetransEndpoint H C) (answers : Bool) (e : Exchange) : Decidable (s.Keeps answers e) :=
  inferInstanceAs (Decidable (∃ node ∈ s.retrans.retransList, _))

/-- A kept response of the exchange is all that a packet brings about. -/
def Resends (env : RecvEnv) (s : RetransEndpoint H C) (d : Received) : Prop :=
  ∃ node ∈ s.retrans.retransList, node.sent.answers = true ∧ node.sent.exchange = d.exchange ∧
    coapEndpointRecvPacket env d s = (.resent node.sent.bytes d.addr, s)

def Unhindered (env : RecvEnv) (s : RetransEndpoint H C) (d : Received) : Prop :=
  let bare := coapEndpointRecvPacket env d { s with retrans := { s.retrans with retransList := [] } }
  coapEndpointRecvPacket env d s = (bare.1, { bare.2 with retrans := s.retrans })

def DuplicatesSuppressed (env : RecvEnv) (s : RetransEndpoint H C) (d : Received) : Prop :=
  (s.Keeps true d.exchange → Resends env s d) ∧ (¬ s.Keeps true d.exchange → Unhindered env s d)

/-- The suppression of duplicate requests, where the endpoint keeps no request of its own for the exchange. -/
structure RequestsSuppressed (env : RecvEnv) (s : RetransEndpoint H C) (d : Received) : Prop where
  resends : isRequest d.pkt = true → s.Keeps true d.exchange → ¬ s.Keeps false d.exchange → Resends env s d
  unhindered : isRequest d.pkt = false ∨ (∀ answers, ¬ s.Keeps answers d.exchange) → Unhindered env s d

theorem unhindered_of_response {d : Received} (h : isRequest d.pkt = false) (env : RecvEnv)
    (s : RetransEndpoint H C) : Unhindered env s d := by
  simp only [Unhindered, coapEndpointRecvPacket, h, Bool.false_eq_true, if_false]

theorem unhindered_of_not_kept {s : RetransEndpoint H C} {d : Received} (hs : s.retrans.Faithful)
    (h : ∀ answers, ¬ s.Keeps answers d.exchange) (env : RecvEnv) : Unhindered env s d := by
  have hnone : coapEndpointRecvPacketRetransProcess d.pkt d.addr s.retrans = none := by
    rw [coapEndpointRecvPacketRetransProcess, List.find?_eq_none]
    intro node hnode hmatch
    exact h _ ⟨node, hnode, rfl, ((hs node hnode).matches_iff d).mp hmatch⟩
  by_cases hrequest : isRequest d.pkt = true
  · simp only [Unhindered, coapEndpointRecvPacket, hrequest, hnone, if_true]
    rfl
  · exact unhindered_of_response (Bool.eq_false_iff.mpr hrequest) env s

theorem resends_of_kept {s : RetransEndpoint H C} {d : Received} (hs : s.retrans.Faithful)
    (hrequest : isRequest d.pkt = true) (hkept : s.Keeps true d.exchange) (hown : ¬ s.Keeps false d.exchange)
    (env : RecvEnv) : Resends env s d := by
  obtain ⟨node, hnode, -, hexchange⟩ := hkept
  cases hfind : coapEndpointRecvPacketRetransProcess d.pkt d.addr s.retrans with
  | none =>
    rw [coapEndpointRecvPacketRetransProcess, List.find?_eq_none] at hfind
    exact absurd (((hs node hnode).matches_iff d).mpr hexchange) (hfind node hnode)
  | some first =>
    have hfirst := List.mem_of_find?_eq_some hfind
    have hmatch : first.sent.exchange = d.exchange := by
      rw [coapEndpointRecvPacketRetransProcess] at hfind
      have hfound := List.find?_some hfind
      exact ((hs first hfirst).matches_iff d).mp hfound
    have hanswers : first.sent.answers = true := by
      cases hcase : first.sent.answers with
      | true => rfl
      | false => exact absurd ⟨first, hfirst, hcase, hmatch⟩ hown
    refine ⟨first, hfirst, hanswers, hmatch, ?_⟩
    rw [coapEndpointRecvPacket, if_pos hrequest, hfind]
    dsimp only
    rw [(hs first hfirst).raw, (hs first hfirst).addr, hmatch]
    rfl

theorem run_faithful (server : CoapEndpointServer H) (client : CoapEndpoint C) (maxBufSize : UInt32)
    (es : List (RetransEvent C)) :
    (Trace.run retransStep (RetransEndpoint.start server client maxBufSize) es).retrans.Faithful := by
  have hstep : ∀ (s : RetransEndpoint H C) e, True → s.retrans.Faithful → (retransStep s e).retrans.Faithful :=
    fun s e _ => retransStep_faithful s e
  refine Trace.run_invariant hstep (Trace.along_of_forall (fun _ _ _ => trivial) _) ?_
  intro node hnode
  cases hnode

theorem duplicate_requests_suppressed (server : CoapEndpointServer H) (client : CoapEndpoint C)
    (maxBufSize : UInt32) (es : List (RetransEvent C)) (env : RecvEnv) (d : Received) :
    RequestsSuppressed env (Trace.run retransStep (RetransEndpoint.start server client maxBufSize) es) d where
  resends hrequest hkept hown := resends_of_kept (run_faithful server client maxBufSize es) hrequest hkept hown env
  unhindered h :=
    h.elim (fun hresponse => unhindered_of_response hresponse env _) fun hkept =>
      unhindered_of_not_kept (run_faithful server client maxBufSize es) hkept env

/-! ### A request and its response -/

def samplePeer : SocketAddr := ⟨5683, 0x0A000002⟩

def sampleDatagram (code : UInt8) : CoapRaw :=
  ⟨Memory.ofList [0x58, code, 0x12, 0x34, 1, 2, 3, 4, 5, 6, 7, 8] 0, 12⟩

def sampleGet : Received := (Received.ofDatagram (sampleDatagram 0x01) samplePeer).get (by decide)
def sampleContent : Received := (Received.ofDatagram (sampleDatagram 0x45) samplePeer).get (by decide)

def sampleStart : RetransEndpoint Unit Unit :=
  .start ⟨[], none, some ()⟩ (.start (coapEndpointClientInit 0x1234 none)) 512

def samplePacketEnv : PacketEnv where
  buffer := .ok (emptyBuffer 64)
  transSessMsgSend buf := (.ok, buf)
  retrans := ⟨true, true, 1000, fun _ _ => some 1000⟩

def sampleRecvEnv : RecvEnv := ⟨true, true, ⟨1000, fun _ => true⟩⟩

def sampleAnswered : RetransEndpoint Unit Unit :=
  Trace.run retransStep sampleStart [.recv sampleRecvEnv sampleGet,
    .respond samplePacketEnv ⟨1, 0x45, [], some (.bytes [7]), none⟩ sampleGet]

def sampleAsked : RetransEndpoint Unit Unit :=
  let env : SendEnv :=
    ⟨true, fun i => i.toUInt8 + 1, fun _ _ => (.ok, CoapPacket.init), sampleRecvEnv.sweep, ⟨true, true, 0⟩⟩
  Trace.run retransStep sampleStart
    [.request env samplePacketEnv ⟨1, 0x01, [], none, none, none, 0⟩ samplePeer]

theorem duplicate_get_resent : Resends sampleRecvEnv sampleAnswered sampleGet :=
  (duplicate_requests_suppressed _ _ _ _ sampleRecvEnv sampleGet).resends (by decide) (by decide)
    (by decide)

/-- A response of the same exchange goes to the client. A request of an exchange that the endpoint has begun itself
is answered with the request of the endpoint. -/
theorem duplicates_not_suppressed : ¬ DuplicatesSuppressed sampleRecvEnv sampleAnswered sampleContent ∧
    ¬ DuplicatesSuppressed sampleRecvEnv sampleAsked sampleGet := by
  constructor
  · intro h
    obtain ⟨node, -, -, -, hrecv⟩ := h.1 (by decide)
    have hclient : (coapEndpointRecvPacket sampleRecvEnv sampleContent sampleAnswered).1 = .response .ok := by
      decide
    rw [hrecv] at hclient
    cases hclient
  · intro h
    have hserved := congrArg Prod.fst (h.2 (by decide))
    revert hserved
    decide

end IotConnect.Endpoint
