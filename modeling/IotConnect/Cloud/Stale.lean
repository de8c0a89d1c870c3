import IotConnect.Cloud.Online

/-! # Requests of an earlier connection

The endpoint keeps its requests when the link is lost, so that replies to them reach the state machine of the
next connection. A reply to a request that was sent before the last connect should not move it, and a switch
of the state inside a state handler should not be undone by the state that the handler returns. Both hold
exactly when the replies concerned are ones that the state machine ignores. -/
namespace IotConnect.Cloud
open Trace Coap Endpoint
set_option autoImplicit false

variable (J : JsonAdapter) (K : (password salt : List UInt8) → List UInt8)

/-! ## What should hold -/

/-- The client with the number of requests that had been sent when it last connected. -/
def trackedStep (s : CloudContext × ℕ) (e : CloudEvent) : CloudContext × ℕ :=
  (cloudStep J K s.1 e, if connects s.1 e then s.1.endpoint.serial else s.2)

def trackedStart : CloudContext × ℕ := (.start, 0)

def IsStale (base : ℕ) (h : RespHandler CloudHandler) : Prop := ∃ id ∈ h.owner, id < base

instance (base : ℕ) (h : RespHandler CloudHandler) : Decidable (IsStale base h) :=
  inferInstanceAs (Decidable (∃ _ ∈ _, _))

def responseCall (c : CloudContext) : CloudEvent → Option (RespHandler CloudHandler)
  | .response env pkt _ => if c.link then (getRespHandler env.lock c.endpoint.client pkt).1 else none
  | _ => none

structure Sweep where
  response : ResponseEnv
  env : SweepEnv
  context : CloudContext

def sweepOf (c : CloudContext) : CloudEvent → Option Sweep
  | .fsmTimer env => c.cur.request.bind fun r =>
      (sentContext env.request r.1 c.beforeRequest).map (⟨env.request.response, env.request.sweep, ·⟩)
  | .response env pkt payload =>
    if c.link then some ⟨env.response, env.sweep, recvHandled J K env pkt payload c⟩ else none
  | .timeoutCheck env sweep => if c.link then some ⟨env, sweep, c⟩ else none
  | .heartbeatTimer env =>
    if c.hbTimer then (sentContext env .heartbeat c).map (⟨env.response, env.sweep, ·⟩) else none
  | .tokenTimer env _ =>
    if c.token.tokenTimer.isSome then (sentContext env .tokenRefresh c).map (⟨env.response, env.sweep, ·⟩) else none
  | _ => none

def Sweep.call (s : Sweep) : Option (RespHandler CloudHandler) :=
  (getTimeoutRespHandler (s.env.lock 0) s.env.cur s.context.endpoint.client).1

/-- Replies to the requests of an earlier connection leave the state as it is. -/
structure StaleInert (base : ℕ) (c : CloudContext) (e : CloudEvent) : Prop where
  response : ∀ h ∈ responseCall c e, IsStale base h → (handledContext J K c e).cur = c.cur
  timeout : ∀ s ∈ sweepOf J K c e, ∀ h ∈ s.call, IsStale base h →
    (timeoutCheck J K s.response s.env s.context).cur = s.context.cur

/-- A state that is switched to inside a state handler is the one that is left. -/
def InnerSwitchKept (c : CloudContext) : CloudEvent → Prop
  | .fsmTimer env => (fsmHandler J K env c).2.cur ≠ c.cur →
    (utilsFsmRunning J K env c).cur = (fsmHandler J K env c).2.cur
  | _ => True

instance (base : ℕ) (c : CloudContext) (e : CloudEvent) : Decidable (StaleInert J K base c e) :=
  decidable_of_iff
    ((∀ h ∈ responseCall c e, IsStale base h → (handledContext J K c e).cur = c.cur) ∧
      ∀ s ∈ sweepOf J K c e, ∀ h ∈ s.call, IsStale base h →
        (timeoutCheck J K s.response s.env s.context).cur = s.context.cur)
    ⟨fun h => ⟨h.1, h.2⟩, fun h => ⟨h.1, h.2⟩⟩

instance (c : CloudContext) : (e : CloudEvent) → Decidable (InnerSwitchKept J K c e)
  | .fsmTimer _ => inferInstanceAs (Decidable (_ → _))
  | .response .. => .isTrue trivial
  | .timeoutCheck .. => .isTrue trivial
  | .linkError => .isTrue trivial
  | .heartbeatTimer _ => .isTrue trivial
  | .tokenTimer .. => .isTrue trivial
  | .registerTimeout => .isTrue trivial
  | .sleSetup _ => .isTrue trivial
  | .sleDevInfo _ => .isTrue trivial
  | .restart => .isTrue trivial

/-! ## When a reply leaves the state as it is -/

def Quiet (env : ResponseEnv) (h : CloudHandler) (reply : Reply) (c : CloudContext) : Prop :=
  match h, reply with
  | .revoke, _ => c.cur = .init
  | .heartbeat, .timeout => cloudHbTimeoutCnt ≤ c.sentCnt → c.cur = .connect
  | .heartbeat, .resp _ => True
  | .tokenRefresh, _ => True
  | .devId, .resp payload => h.waitState = some c.cur →
    ∃ json code, respErrcode J payload = .ok (json, code) ∧ (code ≠ 0 ∨ env.endDevice = .ok)
  | .ecoDevInfo, .resp payload => h.waitState = some c.cur → ∃ json code, respErrcode J payload = .ok (json, code) ∧ code ≠ 0
  | .ecoDevState, .resp payload => h.waitState = some c.cur →
    payload ≠ [] ∧ (J.parseWithLen payload).isSome ∧ env.endDevice = .ok
  | h, _ => h.waitState ≠ some c.cur

variable {J K}

variable {h : CloudHandler} {s : FsmState}

theorem CloudHandler.waitState_ne (hwait : h.waitState = some s) :
    s ≠ .connect ∧ s ≠ .init ∧ s ≠ .exit ∧ s.request = none := by
  cases h <;> cases hwait <;> decide

variable {c : CloudContext}

theorem CloudHandler.next_ne (hwait : h.waitState = some c.cur)
    (hstay : h.mayStay = false) : h.next c ≠ c.cur := by
  cases h with
  | pskReg =>
    rw [← Option.some.inj hwait, CloudHandler.next]
    split_ifs <;> decide
  | login =>
    rw [← Option.some.inj hwait, CloudHandler.next]
    split_ifs <;> decide
  | registerReg =>
    rw [← Option.some.inj hwait]
    intro heq
    cases heq
  | devInfoSync =>
    rw [← Option.some.inj hwait]
    intro heq
    cases heq
  | authCodeReg =>
    rw [← Option.some.inj hwait]
    intro heq
    cases heq
  | devId => cases hstay
  | ecoDevInfo => cases hstay
  | ecoDevState => cases hstay
  | _ => cases hwait

theorem Replied.moves {reply : Reply} {c' : CloudContext} (hr : Replied J h reply c c')
    (hwait : h.waitState = some c.cur) (hstay : h.mayStay = false) : c'.cur ≠ c.cur := by
  obtain ⟨hconnect, hinit, hexit, -⟩ := CloudHandler.waitState_ne hwait
  rcases hr.cur with ⟨-, hstay'⟩ | hcur | hcur | hcur | ⟨-, hcur⟩
  · rw [hstay' hwait] at hstay
    cases hstay
  · rw [hcur]
    exact hconnect.symm
  · rw [hcur]
    exact hinit.symm
  · rw [hcur]
    exact hexit.symm
  · rw [hcur]
    exact CloudHandler.next_ne hwait hstay

variable {env : ResponseEnv}

theorem respHandler_cur_iff_of_moves {reply : Reply}
    (hstate : h.waitState = some s) (hmoves : h.mayStay = false ∨ reply = .timeout) :
    (respHandler J K env h reply c).cur = c.cur ↔ h.waitState ≠ some c.cur := by
  by_cases hwait : h.waitState = some c.cur
  · refine iff_of_false ?_ (not_not.mpr hwait)
    rcases hmoves with hstay | rfl
    · exact (respHandler_replied env h reply c).moves hwait hstay
    · rw [respHandler_timeout hwait]
      exact (CloudHandler.waitState_ne hwait).1.symm
  · refine iff_of_true ?_ hwait
    have hne : c.cur ≠ s := by
      rintro rfl
      exact hwait hstate
    rw [respHandler_of_ne hstate hne]

theorem m2mCloudParseAuthCodeByResponse_ok_iff (env : ResponseEnv) (payload : List UInt8) :
    m2mCloudParseAuthCodeByResponse J env payload = .ok ↔
      ∃ json code, respErrcode J payload = .ok (json, code) ∧ (code ≠ 0 ∨ env.endDevice = .ok) := by
  unfold m2mCloudParseAuthCodeByResponse
  cases hcode : respErrcode J payload with
  | error ret =>
    refine iff_of_false ret.property ?_
    rintro ⟨json, code, h, -⟩
    cases h
  | ok r =>
    obtain ⟨json, code⟩ := r
    dsimp only
    constructor
    · intro h
      refine ⟨json, code, rfl, ?_⟩
      by_cases hne : code ≠ 0
      · exact .inl hne
      · rw [if_neg hne] at h
        exact .inr h
    · rintro ⟨json', code', h, hor⟩
      cases h
      by_cases hne : code ≠ 0
      · rw [if_pos hne]
      · rw [if_neg hne]
        exact hor.resolve_left hne

variable {payload : List UInt8}

theorem m2mCloudDevIdRespHandler_cur_iff (hwait : CloudHandler.devId.waitState = some c.cur) :
    (m2mCloudDevIdRespHandler J env (.resp payload) c).cur = c.cur ↔
      m2mCloudParseAuthCodeByResponse J env payload = .ok := by
  have hne := (CloudHandler.waitState_ne hwait).1
  unfold m2mCloudDevIdRespHandler guarded
  rw [if_neg (not_not.mpr hwait.symm)]
  dsimp only
  split_ifs with hok
  · exact iff_of_false hne.symm hok
  · exact iff_of_true rfl (not_not.mp hok)

theorem m2mCloudEcoDevStateRespHandler_cur_iff (hwait : CloudHandler.ecoDevState.waitState = some c.cur) :
    (m2mCloudEcoDevStateRespHandler J env (.resp payload) c).cur = c.cur ↔
      payload ≠ [] ∧ (J.parseWithLen payload).isSome ∧ env.endDevice = .ok := by
  have hne := (CloudHandler.waitState_ne hwait).1
  have hparse : m2mCloudParseEcoDevStateByResponse J env payload = .ok ↔
      payload ≠ [] ∧ (J.parseWithLen payload).isSome ∧ env.endDevice = .ok := by
    unfold m2mCloudParseEcoDevStateByResponse
    by_cases hnil : payload = []
    · simp [hnil]
    · cases hjson : J.parseWithLen payload with
      | none => simp [hnil]
      | some json => simp [hnil]
  rw [← hparse]
  unfold m2mCloudEcoDevStateRespHandler guarded
  rw [if_neg (not_not.mpr hwait.symm)]
  dsimp only
  split_ifs with hok
  · exact iff_of_false hne.symm hok
  · exact iff_of_true rfl (not_not.mp hok)

theorem m2mCloudEcoDevInfoRespHandler_cur_iff (hwait : CloudHandler.ecoDevInfo.waitState = some c.cur) :
    (m2mCloudEcoDevInfoRespHandler J (.resp payload) c).cur = c.cur ↔
      ∃ json code, respErrcode J payload = .ok (json, code) ∧ code ≠ 0 := by
  have hne := (CloudHandler.waitState_ne hwait).1
  unfold m2mCloudEcoDevInfoRespHandler guarded
  rw [if_neg (not_not.mpr hwait.symm)]
  dsimp only
  cases hcode : respErrcode J payload with
  | error ret =>
    have hparse : m2mCloudParseEcoDevInfoByResponse J c payload = (ret.val, c) := by
      unfold m2mCloudParseEcoDevInfoByResponse
      rw [hcode]
    rw [hparse, if_pos ret.property]
    refine iff_of_false hne.symm ?_
    rintro ⟨json, code, h, -⟩
    cases h
  | ok r =>
    obtain ⟨json, code⟩ := r
    have hparse : m2mCloudParseEcoDevInfoByResponse J c payload =
        (.ok, if code ≠ 0 then c else c.changeFsmTo .ecoStateSync) := by
      unfold m2mCloudParseEcoDevInfoByResponse
      rw [hcode]
    rw [hparse, if_neg (not_not.mpr rfl)]
    by_cases hzero : code ≠ 0
    · rw [if_pos hzero]
      exact iff_of_true rfl ⟨json, code, rfl, hzero⟩
    · rw [if_neg hzero]
      refine iff_of_false ?_ ?_
      · rw [← Option.some.inj hwait]
        exact nofun
      · rintro ⟨json', code', h, hne'⟩
        cases h
        exact hzero hne'

theorem respHandler_cur_iff (env : ResponseEnv) (h : CloudHandler) (reply : Reply) (c : CloudContext) :
    (respHandler J K env h reply c).cur = c.cur ↔ Quiet J env h reply c := by
  cases h with
  | revoke => exact eq_comm
  | tokenRefresh => exact iff_of_true rfl trivial
  | heartbeat =>
    cases reply with
    | timeout =>
      show (m2mCloudHeartbbeatRespHandler J env .timeout c).cur = c.cur ↔ (cloudHbTimeoutCnt ≤ c.sentCnt → c.cur = .connect)
      unfold m2mCloudHeartbbeatRespHandler
      dsimp only
      by_cases hcnt : c.sentCnt ≥ cloudHbTimeoutCnt
      · rw [if_pos hcnt]
        exact ⟨fun heq _ => heq.symm, fun heq => (heq hcnt).symm⟩
      · rw [if_neg hcnt]
        exact iff_of_true rfl fun hle => absurd hle hcnt
    | resp payload =>
      refine iff_of_true ?_ trivial
      show (m2mCloudHeartbbeatRespHandler J env (.resp payload) c).cur = c.cur
      unfold m2mCloudHeartbbeatRespHandler
      dsimp only
      split
      · rfl
      · split_ifs <;> rfl
  | devId =>
    cases reply with
    | timeout => exact respHandler_cur_iff_of_moves rfl (.inr rfl)
    | resp payload =>
      by_cases hwait : CloudHandler.devId.waitState = some c.cur
      · rw [Quiet, forall_prop_of_true hwait, ← m2mCloudParseAuthCodeByResponse_ok_iff]
        exact m2mCloudDevIdRespHandler_cur_iff hwait
      · refine iff_of_true ?_ fun heq => absurd heq hwait
        rw [respHandler_of_ne rfl fun heq => hwait (congrArg some heq.symm)]
  | ecoDevInfo =>
    cases reply with
    | timeout => exact respHandler_cur_iff_of_moves rfl (.inr rfl)
    | resp payload =>
      by_cases hwait : CloudHandler.ecoDevInfo.waitState = some c.cur
      · rw [Quiet, forall_prop_of_true hwait]
        exact m2mCloudEcoDevInfoRespHandler_cur_iff hwait
      · refine iff_of_true ?_ fun heq => absurd heq hwait
        rw [respHandler_of_ne rfl fun heq => hwait (congrArg some heq.symm)]
  | ecoDevState =>
    cases reply with
    | timeout => exact respHandler_cur_iff_of_moves rfl (.inr rfl)
    | resp payload =>
      by_cases hwait : CloudHandler.ecoDevState.waitState = some c.cur
      · rw [Quiet, forall_prop_of_true hwait]
        exact m2mCloudEcoDevStateRespHandler_cur_iff hwait
      · refine iff_of_true ?_ fun heq => absurd heq hwait
        rw [respHandler_of_ne rfl fun heq => hwait (congrArg some heq.symm)]
  | _ => exact respHandler_cur_iff_of_moves rfl (.inl rfl)

/-! ## Sweeps and state handlers -/

theorem timeoutCheck_cur_iff (env : ResponseEnv) (sweep : SweepEnv) (c : CloudContext) :
    (timeoutCheck J K env sweep c).cur = c.cur ↔
      ∀ node ∈ sweep.request c.endpoint.client, Quiet J env node.respHandler .timeout c := by
  rw [timeoutCheck_eq]
  cases sweep.request c.endpoint.client with
  | none => exact iff_of_true rfl nofun
  | some node =>
    have hiff := respHandler_cur_iff (J := J) (K := K) env node.respHandler .timeout (sweptContext sweep c)
    constructor
    · rintro hcur node' ⟨⟩
      exact hiff.mp hcur
    · intro hquiet
      exact hiff.mpr (hquiet node rfl)

theorem FsmState.request_wait_ne {wait : FsmState} (hreq : s.request = some (h, wait)) :
    wait ≠ .connect ∧ wait ≠ .init := by
  cases s <;> cases hreq <;> decide

theorem m2mBuildRequest_cur (env : RequestEnv) (h : CloudHandler) (c : CloudContext) :
    (m2mBuildRequest env h c).2.cur = c.cur := by
  unfold m2mBuildRequest
  by_cases hjson : env.jsonCreate = false
  · rw [if_pos hjson]
  · rw [if_neg hjson]
    cases h with
    | heartbeat =>
      dsimp only
      split_ifs <;> rfl
    | _ => rfl

theorem CloudContext.beforeRequest_cur (c : CloudContext) : c.beforeRequest.cur = c.cur := by
  unfold beforeRequest
  split_ifs <;> rfl

theorem cloudFsmConnectHandler_cur {env : ConnectEnv} (hcur : c.cur = .connect) :
    (cloudFsmConnectHandler env c).2.cur = c.cur := by
  obtain ⟨link, info, heq | ⟨-, -, heq⟩⟩ := cloudFsmConnectHandler_context env c
  · rw [heq]
  · rw [heq, hcur]
    rfl

theorem fsmHandler_cur {env : FsmEnv} (hreq : c.cur.request = none) : (fsmHandler J K env c).2.cur = c.cur := by
  by_cases hinit : c.cur = .init
  · obtain ⟨register, revoke, regTimer, authInfo, heq⟩ := cloudFsmInitHandler_context env.init c
    rw [fsmHandler_init hinit, heq]
  by_cases hcreate : c.cur = .createLink
  · obtain ⟨created, endpoint, enable, info, heq⟩ := cloudFsmCreateLinkHandler_context env.create c
    rw [fsmHandler_createLink hcreate, heq]
  by_cases hconnect : c.cur = .connect
  · rw [fsmHandler_connect hconnect]
    exact cloudFsmConnectHandler_cur hconnect
  rw [fsmHandler_stays hreq hinit hcreate hconnect]

/-- A state handler that sends: what is switched while the request is recorded is lost, the switch of a link
error is not. -/
theorem requestHandler_kept_iff {wait : FsmState} {env : RequestEnv} {c₀ : CloudContext}
    (hreq : c.cur.request = some (h, wait)) (hcur : c₀.cur = c.cur) :
    ((requestHandler J K h wait env c₀).2.cur ≠ c.cur →
        (requestHandler J K h wait env c₀).1 = (requestHandler J K h wait env c₀).2.cur) ↔
      ∀ c', sentContext env h c₀ = some c' → (timeoutCheck J K env.response env.sweep c').cur = c'.cur := by
  have hbuilt : (m2mBuildRequest env h c₀).2.cur = c.cur := (m2mBuildRequest_cur env h c₀).trans hcur
  cases hsent : sentContext env h c₀ with
  | none =>
    obtain ⟨hret, hctx⟩ := m2mCloudSendRequest_of_unsent (J := J) (K := K) hsent
    have hnext : (requestHandler J K h wait env c₀).1 = .connect := if_pos hret
    refine iff_of_true ?_ (fun c' hc' => absurd hc' (Option.some_ne_none c').symm)
    rw [hnext]
    intro hne
    rcases hctx with heq | heq | heq
    · have hsame : (requestHandler J K h wait env c₀).2.cur = c.cur := (congrArg CloudContext.cur heq).trans hcur
      exact absurd hsame hne
    · have hsame : (requestHandler J K h wait env c₀).2.cur = c.cur := (congrArg CloudContext.cur heq).trans hbuilt
      exact absurd hsame hne
    · exact (congrArg CloudContext.cur heq).symm
  | some c' =>
    obtain ⟨endpoint, heq⟩ := m2mCloudSendRequest_of_sent (J := J) (K := K) hsent
    obtain ⟨hconnect, hinit⟩ := FsmState.request_wait_ne hreq
    have hcur' : c'.cur = c.cur := by rw [sentContext_eq hsent, hbuilt]
    have hsettles := (timeoutCheck_settles (J := J) (K := K) env.response env.sweep c').1.cur
    have hnext : (requestHandler J K h wait env c₀).1 = wait :=
      if_neg (not_not.mpr (congrArg Prod.fst heq))
    have hinner : (requestHandler J K h wait env c₀).2.cur =
        (timeoutCheck J K env.response env.sweep c').cur := congrArg (fun r => r.2.cur) heq
    rw [hnext, hinner, ← hcur']
    constructor
    · intro hkept c'' hc''
      cases hc''
      by_contra hne
      have hwait := hkept hne
      rcases hsettles with hstay | hback | hback
      · exact hne hstay
      · exact hconnect (hwait.trans hback)
      · exact hinit (hwait.trans hback)
    · intro hstay hne
      exact absurd (hstay c' rfl) hne

theorem innerSwitchKept_iff (env : FsmEnv) (c : CloudContext) :
    InnerSwitchKept J K c (.fsmTimer env) ↔ ∀ s ∈ sweepOf J K c (.fsmTimer env),
      (timeoutCheck J K s.response s.env s.context).cur = s.context.cur := by
  have hturn : InnerSwitchKept J K c (.fsmTimer env) ↔ ((fsmHandler J K env c).2.cur ≠ c.cur →
      (fsmHandler J K env c).1 = (fsmHandler J K env c).2.cur) := Iff.rfl
  rw [hturn]
  cases hreq : c.cur.request with
  | none =>
    have hsweep : sweepOf J K c (.fsmTimer env) = none := by simp [sweepOf, hreq]
    rw [hsweep]
    exact iff_of_true (fun hne => absurd (fsmHandler_cur hreq) hne) (fun s hs => absurd hs (Option.not_mem_none s))
  | some r =>
    obtain ⟨h, wait⟩ := r
    have hsweep : sweepOf J K c (.fsmTimer env) = (sentContext env.request h c.beforeRequest).map
        (⟨env.request.response, env.request.sweep, ·⟩) := by simp [sweepOf, hreq]
    rw [fsmHandler_request hreq, requestHandler_kept_iff hreq c.beforeRequest_cur, hsweep]
    constructor
    · intro hstay s hs
      obtain ⟨c', hc', rfl⟩ := Option.map_eq_some_iff.mp hs
      exact hstay c' hc'
    · intro hstay c' hc'
      exact hstay ⟨env.request.response, env.request.sweep, c'⟩ (Option.map_eq_some_iff.mpr ⟨c', hc', rfl⟩)

/-! ## Late replies -/

variable (J K)

/-- Replies to requests of an earlier connection, and all timeouts that a state handler runs into, are
ignored. -/
structure LateRepliesQuiet (base : ℕ) (c : CloudContext) (e : CloudEvent) : Prop where
  response : ∀ env pkt payload, e = .response env pkt payload → ∀ h ∈ responseCall c e, IsStale base h →
    Quiet J env.response h.fn (.resp payload) c
  timeout : ∀ s ∈ sweepOf J K c e, ∀ node ∈ s.env.request s.context.endpoint.client,
    (node.id < base ∨ ∃ env, e = .fsmTimer env) → Quiet J s.response node.respHandler .timeout s.context

variable {J K}

theorem handledContext_cur_iff {env : RecvEnv} {pkt : CoapPacket}
    {h : RespHandler CloudHandler} (hcall : responseCall c (.response env pkt payload) = some h) :
    (handledContext J K c (.response env pkt payload)).cur = c.cur ↔ Quiet J env.response h.fn (.resp payload) c := by
  unfold responseCall at hcall
  dsimp only at hcall
  split_ifs at hcall with hlink
  have hctx : handledContext J K c (.response env pkt payload) = respHandler J K env.response h.fn (.resp payload)
      { c with endpoint := handleResp env.lock pkt c.endpoint } := by
    unfold handledContext recvHandled
    dsimp only
    rw [if_pos hlink, hcall]
  rw [hctx]
  exact respHandler_cur_iff env.response h.fn (.resp payload) { c with endpoint := handleResp env.lock pkt c.endpoint }

theorem Sweep.mem_call {s : Sweep} {h : RespHandler CloudHandler} :
    h ∈ s.call ↔ ∃ node ∈ s.env.request s.context.endpoint.client, node.handler = h := by
  unfold Sweep.call
  rw [getTimeoutRespHandler_request]
  exact Option.map_eq_some_iff

theorem isStale_handler {base : ℕ} {node : CoapReqNode CloudHandler} : IsStale base node.handler ↔ node.id < base := by
  constructor
  · rintro ⟨id, hid, hlt⟩
    cases hid
    exact hlt
  · intro hlt
    exact ⟨node.id, rfl, hlt⟩

theorem staleInert_innerSwitchKept_iff (base : ℕ) (c : CloudContext) (e : CloudEvent) :
    StaleInert J K base c e ∧ InnerSwitchKept J K c e ↔ LateRepliesQuiet J K base c e := by
  constructor
  · rintro ⟨hinert, hkept⟩
    refine ⟨?_, ?_⟩
    · rintro env pkt payload rfl h hcall hstale
      exact (handledContext_cur_iff hcall).mp (hinert.response h hcall hstale)
    · rintro s hs node hnode (hlt | ⟨env, rfl⟩)
      · have hcur := hinert.timeout s hs node.handler (Sweep.mem_call.mpr ⟨node, hnode, rfl⟩) (isStale_handler.mpr hlt)
        exact (timeoutCheck_cur_iff s.response s.env s.context).mp hcur node hnode
      · have hcur := (innerSwitchKept_iff env c).mp hkept s hs
        exact (timeoutCheck_cur_iff s.response s.env s.context).mp hcur node hnode
  · intro hquiet
    -- only the request that a sweep finds is called, so its reply alone decides
    refine ⟨⟨?_, ?_⟩, ?_⟩
    · intro h hcall hstale
      cases e with
      | response env pkt payload =>
        exact (handledContext_cur_iff hcall).mpr (hquiet.response env pkt payload rfl h hcall hstale)
      | _ => exact absurd hcall (Option.not_mem_none h)
    · intro s hs h hcall hstale
      obtain ⟨node, hnode, rfl⟩ := Sweep.mem_call.mp hcall
      refine (timeoutCheck_cur_iff s.response s.env s.context).mpr ?_
      intro node' hnode'
      cases Option.mem_unique hnode hnode'
      exact hquiet.timeout s hs node hnode (.inl (isStale_handler.mp hstale))
    · cases e with
      | fsmTimer env =>
        refine (innerSwitchKept_iff env c).mpr ?_
        intro s hs
        refine (timeoutCheck_cur_iff s.response s.env s.context).mpr ?_
        intro node hnode
        exact hquiet.timeout s hs node hnode (.inr ⟨env, rfl⟩)
      | _ => trivial

/-- A run in which the replies to earlier connections do not matter is one in which they are ignored. -/
theorem run_staleInert_iff (es : List CloudEvent) :
    Along (trackedStep J K) (fun s e => StaleInert J K s.2 s.1 e ∧ InnerSwitchKept J K s.1 e) trackedStart es ↔
      Along (trackedStep J K) (fun s e => LateRepliesQuiet J K s.2 s.1 e) trackedStart es :=
  ⟨Along.mono fun s e h => (staleInert_innerSwitchKept_iff s.2 s.1 e).mp h,
    Along.mono fun s e h => (staleInert_innerSwitchKept_iff s.2 s.1 e).mpr h⟩

/-- The link is lost after the request for a key. The request of the next connection is still waiting when
the first one times out. -/
def sampleReconnect : List CloudEvent :=
  [sampleTurn 0 1, sampleTurn 0 2, sampleTurn 0 3, sampleTurn 1 4, .linkError, sampleTurn 0 5, sampleTurn 2 29000]

def sampleHeartbeats : List CloudEvent :=
  sampleLogin ++ [sampleAnswer 4 11 4, .heartbeatTimer (sampleRequestEnv 5 12), .heartbeatTimer (sampleRequestEnv 6 13),
    .sleSetup true]

/-- The timeout of the lost connection ends the new one, and the reconnect after the heartbeats is undone by
the handler that runs into it. -/
theorem lateReplies_move :
    ¬ StaleInert sampleJson sampleKdf (run (trackedStep sampleJson sampleKdf) trackedStart sampleReconnect).2
        (run (trackedStep sampleJson sampleKdf) trackedStart sampleReconnect).1
        (.timeoutCheck sampleResponseEnv ⟨30005, fun _ => true⟩) ∧
      ¬ InnerSwitchKept sampleJson sampleKdf (run (trackedStep sampleJson sampleKdf) trackedStart sampleHeartbeats).1
        (sampleTurn 7 40000) := by
  decide

end IotConnect.Cloud
