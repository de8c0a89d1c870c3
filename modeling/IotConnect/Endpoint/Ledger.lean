import IotConnect.Endpoint.Client
import IotConnect.Foundations.Trace

/-! # Answering every request once

What the client is for is a ledger of requests: a request is opened, and later closed by the one call
of its handler, with a response that matches it or with the timeout flag. `Move` is what one access to
the ledger may do. Every section of the code that runs under the lock is such a move as long as a
sweep finds at most one expired request (`section_move`): `GetTimeoutRespHandler` removes all expired
requests but returns one handler. Moves keep the accounts (`Move.kept`), so they hold after any
interleaving of the sections, that is for calls from several threads and from inside handlers too. -/
namespace IotConnect.Endpoint
open Memory Coap Trace
set_option autoImplicit false

variable {H : Type}

/-! ## Accounts -/

/-- A call of a handler. -/
structure Call (H : Type) where
  handler : H
  resp : Option CoapPacket
  timeout : Bool

/-- The call of the handler of request `i` that an entry records. -/
def Entry.call (i : ℕ) : Entry H → Option (Call H)
  | .inserted _ => none
  | .response _ none => none
  | .response pkt (some h) => if h.owner = some i then some ⟨h.fn, some pkt, false⟩ else none
  | .timeout h => if h.owner = some i then some ⟨h.fn, none, true⟩ else none

def calls (i : ℕ) (log : List (Entry H)) : List (Call H) := log.filterMap (Entry.call i)

/-- Of these responses, those that match the request went to older requests that they match as well. -/
def NoneMissed (tkl : Fin 9) (node : CoapReqNode H) (l : List (Entry H)) : Prop :=
  ∀ pkt h, Entry.response pkt h ∈ l → respMatches tkl pkt node = true →
    ∃ g j, h = some g ∧ g.owner = some j ∧ j < node.id

/-- `pkt` is the first response that matches the request and did not go to an older one. -/
def FirstResponse (tkl : Fin 9) (log : List (Entry H)) (node : CoapReqNode H) (pkt : CoapPacket) : Prop :=
  respMatches tkl pkt node = true ∧ ∃ newer between older,
    log = newer ++ .response pkt (some node.handler) :: (between ++ .inserted node :: older) ∧
      NoneMissed tkl node between

/-- The handler of the request was called once, with the timeout flag or with the first response. -/
def Served (tkl : Fin 9) (log : List (Entry H)) (node : CoapReqNode H) : Prop :=
  calls node.id log = [⟨node.respHandler, none, true⟩] ∨
    ∃ pkt, calls node.id log = [⟨node.respHandler, some pkt, false⟩] ∧ FirstResponse tkl log node pkt

/-- No call while the request is in the list, one call when it is not. -/
def AnsweredOnce (s : CoapEndpoint H) (node : CoapReqNode H) : Prop :=
  (node ∈ s.client.reqList ∧ calls node.id s.log = []) ∨
    (node ∉ s.client.reqList ∧ Served s.client.tkl s.log node)

def Waiting (tkl : Fin 9) (log : List (Entry H)) (node : CoapReqNode H) : Prop :=
  ∃ newer older, log = newer ++ .inserted node :: older ∧ NoneMissed tkl node newer

theorem calls_cons (i : ℕ) (e : Entry H) (log : List (Entry H)) :
    calls i (e :: log) = (e.call i).toList ++ calls i log := by
  unfold calls
  cases h : e.call i <;> simp [h]

variable {e : Entry H}

theorem calls_cons_none {i : ℕ} (h : e.call i = none) (log : List (Entry H)) :
    calls i (e :: log) = calls i log := by
  rw [calls_cons, h, Option.toList_none, List.nil_append]

theorem Waiting.inserted {tkl : Fin 9} {log : List (Entry H)} {node : CoapReqNode H} (h : Waiting tkl log node) :
    .inserted node ∈ log := by
  obtain ⟨newer, older, rfl, -⟩ := h
  exact List.mem_append_right _ List.mem_cons_self

variable {node : CoapReqNode H}

theorem Waiting.cons {tkl : Fin 9} {log : List (Entry H)} (h : Waiting tkl log node)
    (he : NoneMissed tkl node [e]) : Waiting tkl (e :: log) node := by
  obtain ⟨newer, older, rfl, hnone⟩ := h
  refine ⟨e :: newer, older, rfl, fun pkt g hmem => ?_⟩
  rcases List.mem_cons.mp hmem with h | h
  · exact he pkt g (List.mem_singleton.mpr h)
  · exact hnone pkt g h

theorem Served.cons {tkl : Fin 9} {log : List (Entry H)} (h : Served tkl log node)
    (he : e.call node.id = none) : Served tkl (e :: log) node := by
  rcases h with h | ⟨pkt, h, hmatch, newer, between, older, rfl, hnone⟩
  · exact .inl ((calls_cons_none he log).trans h)
  · exact .inr ⟨pkt, (calls_cons_none he _).trans h, hmatch, e :: newer, between, older, rfl, hnone⟩

/-- The accounts of the ledger. -/
structure Accounts (s : CoapEndpoint H) : Prop where
  sorted : s.client.reqList.Pairwise (fun a b => a.id < b.id)
  waiting : ∀ node ∈ s.client.reqList, Waiting s.client.tkl s.log node ∧ calls node.id s.log = []
  served : ∀ node, .inserted node ∈ s.log → node ∉ s.client.reqList → Served s.client.tkl s.log node
  unique : ∀ a b, .inserted a ∈ s.log → .inserted b ∈ s.log → a.id = b.id → a = b
  numbered : ∀ node, .inserted node ∈ s.log → node.id < s.serial
  unborn : ∀ i, s.serial ≤ i → calls i s.log = []

theorem Accounts.start (cli : CoapEndpointClient H) (h : cli.reqList = []) : Accounts (.start cli) where
  sorted := by rw [CoapEndpoint.start, h]; exact List.Pairwise.nil
  waiting := fun node hnode => by rw [CoapEndpoint.start, h] at hnode; cases hnode
  served := fun node hnode => by cases hnode
  unique := fun a b ha => by cases ha
  numbered := fun node hnode => by cases hnode
  unborn := fun i _ => rfl

variable {s : CoapEndpoint H}

theorem Accounts.answeredOnce (h : Accounts s) (hnode : .inserted node ∈ s.log) : AnsweredOnce s node := by
  by_cases hmem : node ∈ s.client.reqList
  · exact .inl ⟨hmem, (h.waiting node hmem).2⟩
  · exact .inr ⟨hmem, h.served node hnode hmem⟩

/-! ## Moves -/

/-- What one access to the ledger may do. -/
inductive Move : CoapEndpoint H → CoapEndpoint H → Prop
  | idle (s : CoapEndpoint H) (cli : CoapEndpointClient H) (htkl : cli.tkl = s.client.tkl)
      (hlist : cli.reqList = s.client.reqList) : Move s { s with client := cli }
  | unclaimed (s : CoapEndpoint H) (pkt : CoapPacket) (h : Option (RespHandler H))
      (howner : ∀ g, h = some g → g.owner = none)
      (hnone : ∀ node ∈ s.client.reqList, respMatches s.client.tkl pkt node = false) :
      Move s { s with log := .response pkt h :: s.log }
  | answer (s : CoapEndpoint H) (pkt : CoapPacket) (before after : List (CoapReqNode H)) (node : CoapReqNode H)
      (cli : CoapEndpointClient H) (htkl : cli.tkl = s.client.tkl)
      (hlist : s.client.reqList = before ++ node :: after) (hcli : cli.reqList = before ++ after)
      (hbefore : ∀ m ∈ before, respMatches s.client.tkl pkt m = false)
      (hmatch : respMatches s.client.tkl pkt node = true) :
      Move s { s with client := cli, log := .response pkt (some node.handler) :: s.log }
  | expire (s : CoapEndpoint H) (before after : List (CoapReqNode H)) (node : CoapReqNode H)
      (cli : CoapEndpointClient H) (htkl : cli.tkl = s.client.tkl)
      (hlist : s.client.reqList = before ++ node :: after) (hcli : cli.reqList = before ++ after) :
      Move s { s with client := cli, log := .timeout node.handler :: s.log }
  | insert (s : CoapEndpoint H) (node : CoapReqNode H) (cli : CoapEndpointClient H) (htkl : cli.tkl = s.client.tkl)
      (hcli : cli.reqList = s.client.reqList ++ [node]) (hid : node.id = s.serial) :
      Move s ⟨cli, .inserted node :: s.log, s.serial + 1⟩

theorem Accounts.settle (hs : Accounts s) {before after : List (CoapReqNode H)}
    {cli : CoapEndpointClient H} (htkl : cli.tkl = s.client.tkl)
    (hlist : s.client.reqList = before ++ node :: after) (hcli : cli.reqList = before ++ after)
    (hother : ∀ i, i ≠ node.id → e.call i = none) (hne : ∀ m, e ≠ .inserted m)
    (hrest : ∀ m ∈ before ++ after, NoneMissed s.client.tkl m [e])
    (hserved : Served s.client.tkl (e :: s.log) node) :
    Accounts { s with client := cli, log := e :: s.log } := by
  have hmem : node ∈ s.client.reqList := by rw [hlist]; exact List.mem_append_right _ List.mem_cons_self
  have hins := (hs.waiting node hmem).1.inserted
  have hsub : (before ++ after).Sublist s.client.reqList := by
    rw [hlist]
    exact List.Sublist.append_left (List.sublist_cons_self node after) before
  have hsorted := hs.sorted
  rw [hlist, List.pairwise_append, List.pairwise_cons] at hsorted
  have hid : ∀ m ∈ before ++ after, m.id ≠ node.id := fun m hm => by
    rcases List.mem_append.mp hm with h | h
    · have := hsorted.2.2 m h node List.mem_cons_self
      omega
    · have := hsorted.2.1.1 m h
      omega
  have hold : ∀ m, .inserted m ∈ e :: s.log → .inserted m ∈ s.log := fun m hm =>
    (List.mem_cons.mp hm).resolve_left fun h => hne m h.symm
  refine ⟨?_, fun m hm => ?_, fun m hm hnot => ?_, fun a b ha hb => hs.unique a b (hold a ha) (hold b hb),
    fun m hm => hs.numbered m (hold m hm), fun i hi => ?_⟩
  · simpa only [hcli] using hs.sorted.sublist hsub
  · simp only [hcli] at hm
    obtain ⟨hw, hc⟩ := hs.waiting m (hsub.subset hm)
    simp only [htkl]
    exact ⟨hw.cons (hrest m hm), (calls_cons_none (hother m.id (hid m hm)) s.log).trans hc⟩
  · simp only [hcli] at hnot
    simp only [htkl]
    by_cases heq : m = node
    · rw [heq]
      exact hserved
    have hgone : m ∉ s.client.reqList := fun h => by
      rw [hlist, List.mem_append, List.mem_cons] at h
      rcases h with h | h | h
      · exact hnot (List.mem_append_left _ h)
      · exact heq h
      · exact hnot (List.mem_append_right _ h)
    exact (hs.served m (hold m hm) hgone).cons
      (hother m.id fun h => heq (hs.unique m node (hold m hm) hins h))
  · have := hs.numbered node hins
    exact (calls_cons_none (hother i (by simp only at hi; omega)) s.log).trans (hs.unborn i hi)

theorem Accounts.insert (hs : Accounts s) {cli : CoapEndpointClient H} (htkl : cli.tkl = s.client.tkl)
    (hcli : cli.reqList = s.client.reqList ++ [node]) (hid : node.id = s.serial) :
    Accounts ⟨cli, .inserted node :: s.log, s.serial + 1⟩ := by
  have hlt : ∀ m, .inserted m ∈ s.log → m.id < node.id := fun m hm => by
    have := hs.numbered m hm
    omega
  have hcall : ∀ i, calls i (.inserted node :: s.log) = calls i s.log := fun i => calls_cons_none rfl s.log
  refine ⟨?_, fun m hm => ?_, fun m hm hnot => ?_, fun a b ha hb hab => ?_, fun m hm => ?_, fun i hi => ?_⟩
  · simp only [hcli]
    refine List.pairwise_append.mpr ⟨hs.sorted, List.pairwise_singleton _ _, fun a ha b hb => ?_⟩
    rw [List.mem_singleton.mp hb]
    exact hlt a (hs.waiting a ha).1.inserted
  · simp only [hcli] at hm
    simp only [htkl, hcall]
    rcases List.mem_append.mp hm with h | h
    · obtain ⟨hw, hc⟩ := hs.waiting m h
      exact ⟨hw.cons fun pkt g hmem => by simp at hmem, hc⟩
    · rw [List.mem_singleton.mp h]
      exact ⟨⟨[], s.log, rfl, fun pkt g hmem => by cases hmem⟩, hs.unborn node.id (by omega)⟩
  · simp only [hcli, List.mem_append, List.mem_singleton, not_or] at hnot
    simp only [htkl]
    rcases List.mem_cons.mp hm with h | h
    · exact absurd (Entry.inserted.inj h) hnot.2
    · exact (hs.served m h hnot.1).cons rfl
  · rcases List.mem_cons.mp ha with ha | ha <;> rcases List.mem_cons.mp hb with hb | hb
    · rw [Entry.inserted.inj ha, Entry.inserted.inj hb]
    · rw [Entry.inserted.inj ha] at hab
      exact absurd (hlt b hb) (by omega)
    · rw [Entry.inserted.inj hb] at hab
      exact absurd (hlt a ha) (by omega)
    · exact hs.unique a b ha hb hab
  · rcases List.mem_cons.mp hm with h | h
    · rw [Entry.inserted.inj h, hid]
      exact Nat.lt_succ_self _
    · exact Nat.lt_succ_of_lt (hs.numbered m h)
  · rw [hcall]
    exact hs.unborn i (Nat.le_of_succ_le hi)

theorem handler_call (node : CoapReqNode H) (pkt : CoapPacket) {i : ℕ} (h : i ≠ node.id) :
    (Entry.response pkt (some node.handler)).call i = none ∧ (Entry.timeout node.handler).call i = none := by
  have hne : node.handler.owner ≠ some i := fun heq => h (Option.some.inj heq).symm
  exact ⟨if_neg hne, if_neg hne⟩

variable {s' : CoapEndpoint H}

theorem Move.kept (h : Move s s') (hs : Accounts s) : Accounts s' := by
  cases h with
  | idle cli htkl hlist =>
    refine ⟨?_, ?_, ?_, hs.unique, hs.numbered, hs.unborn⟩
    · simpa only [hlist] using hs.sorted
    · simpa only [hlist, htkl] using hs.waiting
    · simpa only [hlist, htkl] using hs.served
  | unclaimed pkt h howner hnone =>
    have hcall : ∀ i, (Entry.response pkt h).call i = none := fun i => by
      cases h with
      | none => rfl
      | some g => exact if_neg (by rw [howner g rfl]; exact Option.some_ne_none i ∘ Eq.symm)
    have hold : ∀ m, .inserted m ∈ Entry.response pkt h :: s.log → .inserted m ∈ s.log := fun m hm => by
      simpa using hm
    refine ⟨hs.sorted, fun m hm => ?_, fun m hm hnot => (hs.served m (hold m hm) hnot).cons (hcall m.id),
      fun a b ha hb => hs.unique a b (hold a ha) (hold b hb), fun m hm => hs.numbered m (hold m hm),
      fun i hi => (calls_cons_none (hcall i) s.log).trans (hs.unborn i hi)⟩
    obtain ⟨hw, hc⟩ := hs.waiting m hm
    refine ⟨hw.cons fun p g hmem hmatch => ?_, (calls_cons_none (hcall m.id) s.log).trans hc⟩
    cases List.mem_singleton.mp hmem
    rw [hnone m hm] at hmatch
    cases hmatch
  | answer pkt before after node cli htkl hlist hcli hbefore hmatch =>
    have hmem : node ∈ s.client.reqList := by rw [hlist]; exact List.mem_append_right _ List.mem_cons_self
    obtain ⟨⟨between, older, hlog, hnone⟩, hc⟩ := hs.waiting node hmem
    refine hs.settle htkl hlist hcli (fun i hi => (handler_call node pkt hi).1) (fun m => nofun)
      (fun m hm p g hp hm' => ?_) (.inr ⟨pkt, ?_, hmatch, [], between, older, ?_, hnone⟩)
    · cases List.mem_singleton.mp hp
      rcases List.mem_append.mp hm with h | h
      · rw [hbefore m h] at hm'
        cases hm'
      · have hsorted := hs.sorted
        rw [hlist, List.pairwise_append, List.pairwise_cons] at hsorted
        exact ⟨node.handler, node.id, rfl, rfl, hsorted.2.1.1 m h⟩
    · rw [calls_cons, hc]
      exact congrArg (Option.toList · ++ []) (if_pos rfl)
    · rw [hlog, List.nil_append]
  | expire before after node cli htkl hlist hcli =>
    have hmem : node ∈ s.client.reqList := by rw [hlist]; exact List.mem_append_right _ List.mem_cons_self
    refine hs.settle htkl hlist hcli (fun i hi => (handler_call node CoapPacket.init hi).2) (fun m => nofun)
      (fun m hm p g hp => by simp at hp) (.inl ?_)
    rw [calls_cons, (hs.waiting node hmem).2]
    exact congrArg (Option.toList · ++ []) (if_pos rfl)
  | insert node cli htkl hcli hid => exact hs.insert htkl hcli hid

/-! ## Sections under the lock -/

variable {cur : UInt32}

theorem timeoutScan_of_one {timeout : UInt32} {before after : List (CoapReqNode H)}
    (hbefore : ∀ m ∈ before, respExpired cur timeout m = false)
    (hafter : ∀ m ∈ after, respExpired cur timeout m = false) (hnode : respExpired cur timeout node = true)
    (ret : Option (RespHandler H)) (reqCnt : ℕ) :
    timeoutScan cur timeout ret reqCnt (before ++ node :: after) =
      (some node.handler, reqCnt - 1, before ++ after) := by
  induction before with
  | nil => rw [List.nil_append, timeoutScan, hnode, if_pos rfl, timeoutScan_of_none hafter, List.nil_append]
  | cons m before ih =>
    rw [List.cons_append, timeoutScan, hbefore m List.mem_cons_self, if_neg Bool.false_ne_true,
      ih fun b hb => hbefore b (List.mem_cons_of_mem _ hb), List.cons_append]

def OneExpired (cur : UInt32) (cli : CoapEndpointClient H) : Prop :=
  cli.reqList.countP (respExpired cur cli.timeout) ≤ 1

theorem OneExpired.cases {cur : UInt32} {cli : CoapEndpointClient H} (h : OneExpired cur cli) :
    (∀ node ∈ cli.reqList, respExpired cur cli.timeout node = false) ∨
      ∃ before node after, cli.reqList = before ++ node :: after ∧ respExpired cur cli.timeout node = true ∧
        (∀ m ∈ before, respExpired cur cli.timeout m = false) ∧
        ∀ m ∈ after, respExpired cur cli.timeout m = false := by
  cases hfind : cli.reqList.find? (respExpired cur cli.timeout) with
  | none => exact .inl fun node hnode => by simpa using List.find?_eq_none.mp hfind node hnode
  | some node =>
    obtain ⟨hnode, before, after, hlist, hbefore⟩ := List.find?_eq_some_iff_append.mp hfind
    refine .inr ⟨before, node, after, hlist, hnode, fun m hm => by simpa using hbefore m hm, ?_⟩
    -- the rest of the list has no other expired request
    rw [OneExpired, hlist, List.countP_append, List.countP_cons, hnode, if_pos rfl] at h
    have hzero : after.countP (respExpired cur cli.timeout) = 0 := by omega
    exact fun m hm => by simpa using List.countP_eq_zero.mp hzero m hm

/-- The parts of the functions that run under the lock, each with the calls it leads to. -/
inductive Section (H : Type)
  | getMsgId (lock : Bool)
  | respond (lock : Bool) (pkt : CoapPacket)
  | sweep (lock : Bool) (cur : UInt32)
  | insert (env : InsertEnv) (msgId : UInt16) (token : ℕ → UInt8) (tkl : ℕ) (handler : H)

def sectionStep (s : CoapEndpoint H) : Section H → CoapEndpoint H
  | .getMsgId lock => { s with client := (getMsgId lock s.client).2 }
  | .respond lock pkt => handleResp lock pkt s
  | .sweep lock cur => (timeoutRound lock cur s).2
  | .insert env msgId token tkl handler => (insertReq env msgId token tkl handler s).2

/-- A response gets the lock, a sweep finds at most one expired request. -/
def SectionOk (s : CoapEndpoint H) : Section H → Prop
  | .respond lock _ => lock = true
  | .sweep _ cur => OneExpired cur s.client
  | _ => True

theorem handleResp_move (pkt : CoapPacket) (s : CoapEndpoint H) : Move s (handleResp true pkt s) := by
  unfold handleResp getRespHandler
  rw [if_neg (by decide)]
  cases hfind : s.client.reqList.find? (respMatches s.client.tkl pkt) with
  | none =>
    refine .unclaimed s pkt _ (fun g hg => ?_) fun node hnode => by
      simpa using List.find?_eq_none.mp hfind node hnode
    obtain ⟨h, -, rfl⟩ := Option.map_eq_some_iff.mp hg
    rfl
  | some node =>
    obtain ⟨hnode, before, after, hlist, hbefore⟩ := List.find?_eq_some_iff_append.mp hfind
    have hfalse : ∀ m ∈ before, respMatches s.client.tkl pkt m = false := fun m hm => by
      simpa using hbefore m hm
    refine .answer s pkt before after node _ rfl hlist ?_ hfalse hnode
    dsimp only
    rw [hlist, List.eraseP_append_right _ fun m hm => by simp [hfalse m hm], List.eraseP_cons_of_pos hnode]

theorem timeoutRound_move {lock : Bool} (h : OneExpired cur s.client) :
    Move s (timeoutRound lock cur s).2 ∧ OneExpired cur (timeoutRound lock cur s).2.client := by
  unfold timeoutRound getTimeoutRespHandler
  by_cases hlock : lock = false
  · rw [if_pos hlock]
    exact ⟨.idle s s.client rfl rfl, h⟩
  rw [if_neg hlock]
  rcases h.cases with hnone | ⟨before, node, after, hlist, hnode, hbefore, hafter⟩
  · rw [timeoutScan_of_none hnone]
    exact ⟨.idle s s.client rfl rfl, h⟩
  · rw [hlist, timeoutScan_of_one hbefore hafter hnode]
    refine ⟨.expire s before after node _ rfl hlist rfl, ?_⟩
    rw [OneExpired, hlist] at h
    exact Nat.le_trans (List.Sublist.countP_le
      (List.Sublist.append_left (List.sublist_cons_self node after) before)) h

theorem insertReq_move (env : InsertEnv) (msgId : UInt16) (token : ℕ → UInt8) (tkl : ℕ) (handler : H)
    (s : CoapEndpoint H) : Move s (insertReq env msgId token tkl handler s).2 := by
  unfold insertReq
  split_ifs
  case neg => exact .insert s _ _ rfl rfl rfl
  all_goals exact .idle s s.client rfl rfl

theorem section_move (s : CoapEndpoint H) (e : Section H) (h : SectionOk s e) : Move s (sectionStep s e) := by
  cases e with
  | getMsgId lock =>
    refine .idle s _ ?_ ?_ <;> unfold getMsgId <;> split_ifs <;> rfl
  | respond lock pkt =>
    cases h
    exact handleResp_move pkt s
  | sweep lock cur => exact (timeoutRound_move h).1
  | insert env msgId token tkl handler => exact insertReq_move env msgId token tkl handler s

theorem accounts_sections {secs : List (Section H)}
    (halong : Along sectionStep SectionOk s secs) (hs : Accounts s) : Accounts (run sectionStep s secs) :=
  run_invariant (fun s e he hs => (section_move s e he).kept hs) halong hs

/-! ## Runs of the client -/

inductive ClientOp (H : Type)
  | sendReq (env : SendEnv) (param : CoapClientReqParam H)
  | recvRespPacket (lock : Bool) (env : SweepEnv) (pkt : CoapPacket)
  | respTimeoutCheck (env : SweepEnv)

def clientStep (s : CoapEndpoint H) : ClientOp H → CoapEndpoint H
  | .sendReq env param => (coapClientSendReq env param s).2
  | .recvRespPacket lock env pkt => (coapEndpointClientRecvRespPacket lock env pkt s).2
  | .respTimeoutCheck env => coapClientRespTimeoutCheck env s

/-- When the operation comes, at most one request is past its timeout, not counting the one that the
response answers; and a response gets the lock. -/
def OpOk (s : CoapEndpoint H) : ClientOp H → Prop
  | .sendReq env _ => OneExpired env.sweep.cur s.client
  | .recvRespPacket lock env pkt => lock = true ∧
      (s.client.reqList.eraseP (respMatches s.client.tkl pkt)).countP (respExpired env.cur s.client.timeout) ≤ 1
  | .respTimeoutCheck env => OneExpired env.cur s.client

/-- `s'` is reached from `s` by sections that meet their condition. -/
def Reaches (s s' : CoapEndpoint H) : Prop :=
  ∃ secs, Along sectionStep SectionOk s secs ∧ run sectionStep s secs = s'

theorem Reaches.refl (s : CoapEndpoint H) : Reaches s s := ⟨[], trivial, rfl⟩

theorem Reaches.head {e : Section H} (he : SectionOk s e) (h : Reaches (sectionStep s e) s') : Reaches s s' := by
  obtain ⟨secs, halong, hrun⟩ := h
  exact ⟨e :: secs, ⟨he, halong⟩, hrun⟩

theorem Reaches.tail (h : Reaches s s') {e : Section H} (he : SectionOk s' e) : Reaches s (sectionStep s' e) := by
  obtain ⟨secs, halong, rfl⟩ := h
  refine ⟨secs ++ [e], (along_append ..).mpr ⟨halong, he, trivial⟩, ?_⟩
  rw [run_append]
  rfl

theorem timeoutLoop_reaches (lock : ℕ → Bool) (fuel round : ℕ)
    (h : OneExpired cur s.client) : Reaches s (timeoutLoop lock cur fuel round s) := by
  induction fuel generalizing round s with
  | zero => exact .refl s
  | succ fuel ih =>
    refine .head (e := .sweep (lock round) cur) h ?_
    rw [timeoutLoop]
    dsimp only
    split_ifs
    · exact ih (round + 1) (timeoutRound_move h).2
    · exact .refl _

theorem clientStep_reaches (s : CoapEndpoint H) (op : ClientOp H) (h : OpOk s op) : Reaches s (clientStep s op) := by
  cases op with
  | respTimeoutCheck env => exact timeoutLoop_reaches env.lock _ 0 h
  | recvRespPacket lock env pkt =>
    obtain ⟨rfl, hone⟩ := h
    refine .head (e := .respond true pkt) rfl (timeoutLoop_reaches env.lock _ 0 ?_)
    have hclient : (handleResp true pkt s).client.timeout = s.client.timeout ∧ (handleResp true pkt s).client.reqList =
        s.client.reqList.eraseP (respMatches s.client.tkl pkt) := by
      unfold handleResp getRespHandler
      rw [if_neg (by decide)]
      cases hfind : s.client.reqList.find? (respMatches s.client.tkl pkt) with
      | none => exact ⟨rfl, (List.eraseP_of_forall_not (List.find?_eq_none.mp hfind)).symm⟩
      | some node => exact ⟨rfl, rfl⟩
    rw [sectionStep, OneExpired, hclient.1, hclient.2]
    exact hone
  | sendReq env param =>
    refine .head (e := .getMsgId env.msgIdLock) trivial ?_
    unfold clientStep coapClientSendReq
    have hone : OneExpired env.sweep.cur (getMsgId env.msgIdLock s.client).2 := by
      unfold getMsgId
      split_ifs <;> exact h
    dsimp only
    split_ifs
    · exact .refl _
    · cases param.respHandler with
      | none => exact .refl _
      | some handler =>
        exact (timeoutLoop_reaches env.sweep.lock _ 0 hone).tail (e := .insert env.insert _ _ _ handler) trivial

/-- **In a run in which no sweep finds two expired requests, every request inserted is answered once**:
its handler is not called while the request is in the list, and was called exactly once when it is
not, with the first response that matches or with the timeout flag. -/
theorem inserted_answeredOnce (cli : CoapEndpointClient H) (hcli : cli.reqList = []) (ops : List (ClientOp H))
    (hops : Along clientStep OpOk (.start cli) ops) (node : CoapReqNode H)
    (hnode : .inserted node ∈ (run clientStep (.start cli) ops).log) :
    AnsweredOnce (run clientStep (.start cli) ops) node := by
  have hstep : ∀ (s : CoapEndpoint H) op, OpOk s op → Accounts s → Accounts (clientStep s op) := by
    intro s op hop hs
    obtain ⟨secs, halong, hrun⟩ := clientStep_reaches s op hop
    rw [← hrun]
    exact accounts_sections halong hs
  exact (run_invariant hstep hops (Accounts.start cli hcli)).answeredOnce hnode

/-! ## Samples -/

def sampleParam (handler : ℕ) : CoapClientReqParam ℕ where
  type := 0
  code := 1
  options := []
  payload := none
  payloadBuilder := none
  respHandler := some handler
  preSize := 0

/-- A request sent at `now`; the encoder copies header and token. -/
def sendAt (handler : ℕ) (now : UInt32) : ClientOp ℕ :=
  .sendReq { msgIdLock := true
             random := fun _ => 9
             sendPacket := fun build _ => (.ok, { CoapPacket.init with header := build.header, token := build.token })
             sweep := ⟨now, fun _ => true⟩
             insert := ⟨true, true, now⟩ } (sampleParam handler)

def checkAt (now : UInt32) : ClientOp ℕ := .respTimeoutCheck ⟨now, fun _ => true⟩

def idleClient : CoapEndpointClient ℕ := coapEndpointClientInit 7 none

/-- A request that waits for 40 seconds is told about its timeout. -/
theorem inserted_answeredOnce_timeout : ∃ node,
    .inserted node ∈ (run clientStep (.start idleClient) [sendAt 1 0, checkAt 40000]).log ∧
      AnsweredOnce (run clientStep (.start idleClient) [sendAt 1 0, checkAt 40000]) node := by
  refine ⟨_, .tail _ (.head _), inserted_answeredOnce idleClient rfl [sendAt 1 0, checkAt 40000] ⟨?_, ?_, trivial⟩ _
    (.tail _ (.head _))⟩
  · show (_ : ℕ) ≤ 1
    decide
  · show (_ : ℕ) ≤ 1
    decide

/-- Two requests that wait for 40 seconds are both removed by the sweep; the handler of the older one is
never called. -/
theorem sweep_forgets_request : ∃ node,
    .inserted node ∈ (run clientStep (.start idleClient) [sendAt 1 0, sendAt 2 0, checkAt 40000]).log ∧
      ¬ AnsweredOnce (run clientStep (.start idleClient) [sendAt 1 0, sendAt 2 0, checkAt 40000]) node := by
  refine ⟨_, .tail _ (.tail _ (.head _)), fun h => ?_⟩
  rcases h with ⟨hmem, -⟩ | ⟨-, hserved | ⟨pkt, hserved, -⟩⟩
  · cases hmem
  · cases hserved
  · cases hserved

end IotConnect.Endpoint
