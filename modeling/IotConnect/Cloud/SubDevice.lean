import IotConnect.Cloud.Online

/-! # Sub-devices and the session (`m2m_cloud_dev_mgr.c`)

A sub-device that is set up, or whose information arrives, switches the state machine to the states that ask the cloud
for its authentication code or synchronise it. The switch is made from whatever state the machine is in. Of the three
response handlers, that of the device information goes on to the state of the devices; the other two leave the machine
in the state in which it waits for the response they were called with. -/
namespace IotConnect.Cloud
open Bytes Coap Endpoint Trace
set_option autoImplicit false

variable (J : JsonAdapter) (K : (password salt : List UInt8) → List UInt8)

/-! ## The session -/

/-- The states that send a request for a sub-device. -/
def FsmState.asks : FsmState → Bool
  | .getAuthCode => true
  | .ecoDevInfoSync => true
  | .ecoStateSync => true
  | _ => false

def FsmState.sub : FsmState → Bool
  | .getAuthCodeWaitResp => true
  | .ecoDevInfoSyncWaitResp => true
  | .ecoStateSyncWaitResp => true
  | state => state.asks

/-- The states in which a sub-device may be served. -/
def FsmState.Serves (state : FsmState) : Prop := state = .online ∨ state.sub = true

/-- The response says that what was asked for a sub-device is done. -/
def Successful (env : ResponseEnv) (payload : List UInt8) : CloudHandler → Prop
  | .devId => (∃ json, respErrcode J payload = .ok (json, 0)) ∧ env.endDevice = .ok
  | .ecoDevInfo => ∃ json, respErrcode J payload = .ok (json, 0)
  | .ecoDevState => m2mCloudParseEcoDevStateByResponse J env payload = .ok
  | _ => False

/-- The response of `e` is one that the handler `h` takes and that is successful. -/
def Succeeds (c : CloudContext) (env : RecvEnv) (pkt : CoapPacket) (payload : List UInt8) (h : CloudHandler) : Prop :=
  c.link = true ∧ (∃ owner, (getRespHandler env.lock c.endpoint.client pkt).1 = some ⟨h, owner⟩) ∧
    some c.cur = h.waitState ∧ Successful J env.response payload h

/-- The states of the sub-devices are entered from `ONLINE` or from one another, an event in another state does not
switch, and a successful response leads to `ONLINE` or to the state that asks for more. -/
structure SessionKept (c : CloudContext) (e : CloudEvent) : Prop where
  entered : (cloudStep J K c e).cur.sub = true → c.cur.Serves
  undisturbed : (∃ accepted, e = .sleSetup accepted ∨ e = .sleDevInfo accepted) → ¬ c.cur.Serves → (cloudStep J K c e).cur = c.cur
  returned : ∀ env pkt payload h, e = .response env pkt payload → Succeeds J c env pkt payload h →
    (recvHandled J K env pkt payload c).cur = .online ∨ (recvHandled J K env pkt payload c).cur.asks = true

/-- Sub-devices are set up, and information is taken for them, while the machine serves them, and the only successful
responses are those to the information. -/
def SubDeviceInTime (c : CloudContext) : CloudEvent → Prop
  | .sleSetup accepted => (c.sleSetupSub && accepted) = true → c.cur.Serves
  | .sleDevInfo accepted => (c.sleDevInfoSub && accepted) = true → c.cur.Serves
  | .response env pkt payload => ∀ h, Succeeds J c env pkt payload h → h = .ecoDevInfo
  | _ => True

/-! ## What enters the states -/

/-- The states of the sub-devices are not entered from outside. -/
def KeepsOut (c c' : CloudContext) : Prop := c'.cur.sub = true → c.cur.sub = true

theorem KeepsOut.trans {c c' c'' : CloudContext} (h : KeepsOut c c') (h' : KeepsOut c' c'') : KeepsOut c c'' :=
  fun hsub => h (h' hsub)

theorem keepsOut_to (c c' : CloudContext) {state : FsmState} (h : state.sub = false) :
    KeepsOut c (c'.changeFsmTo state) := fun hsub => absurd (h.symm.trans hsub) Bool.false_ne_true

theorem keepsOut_of_eq {c c' : CloudContext} (h : c'.cur = c.cur) : KeepsOut c c' := fun hsub => h ▸ hsub

theorem keepsOut_guarded {h : CloudHandler} {reply : Reply} {c : CloudContext} {body : List UInt8 → CloudContext}
    (hbody : ∀ payload, some c.cur = h.waitState → KeepsOut c (body payload)) : KeepsOut c (guarded h reply c body) := by
  unfold guarded
  split_ifs with hstate
  · exact fun hsub => hsub
  · cases reply with
    | timeout => exact keepsOut_to c c rfl
    | resp payload => exact hbody payload (not_not.mp hstate)

theorem keepsOut_respHandler (env : ResponseEnv) (h : CloudHandler) (reply : Reply) (c : CloudContext) :
    KeepsOut c (respHandler J K env h reply c) := by
  unfold respHandler
  cases h with
  | pskReg =>
    refine keepsOut_guarded fun payload _ => ?_
    dsimp only
    split_ifs
    · exact keepsOut_to c _ rfl
    · exact keepsOut_to c _ rfl
    · exact keepsOut_to c _ rfl
  | registerReg =>
    refine keepsOut_guarded fun payload _ => ?_
    dsimp only
    split_ifs
    · exact keepsOut_to c _ rfl
    · exact keepsOut_to c _ rfl
    · split <;> exact keepsOut_to c _ rfl
  | login =>
    refine keepsOut_guarded fun payload _ => ?_
    dsimp only
    split_ifs
    · exact keepsOut_to c _ rfl
    · exact keepsOut_to c _ rfl
    · exact keepsOut_to c _ rfl
  | revoke => exact keepsOut_to c _ rfl
  | authCodeReg =>
    refine keepsOut_guarded fun payload _ => ?_
    unfold sleDeviceCloudFsmInit
    dsimp only
    split_ifs
    · exact keepsOut_to c _ rfl
    · exact keepsOut_to c _ rfl
    · exact keepsOut_to c _ rfl
    · exact fun hsub => Bool.noConfusion (hsub : FsmState.online.sub = true)
  | devInfoSync =>
    refine keepsOut_guarded fun payload _ => ?_
    dsimp only
    split_ifs
    · exact keepsOut_to c _ rfl
    · exact keepsOut_to c _ rfl
  | devId =>
    refine keepsOut_guarded fun payload _ => ?_
    split_ifs
    · exact keepsOut_to c _ rfl
    · exact fun hsub => hsub
  | ecoDevInfo =>
    refine keepsOut_guarded fun payload hstate _ => ?_
    rw [Option.some.inj hstate]
    rfl
  | ecoDevState =>
    refine keepsOut_guarded fun payload _ => ?_
    split_ifs
    · exact keepsOut_to c _ rfl
    · exact fun hsub => hsub
  | heartbeat =>
    unfold m2mCloudHeartbbeatRespHandler
    cases reply with
    | timeout =>
      dsimp only
      split_ifs
      · exact keepsOut_to c _ rfl
      · exact fun hsub => hsub
    | resp payload =>
      dsimp only
      split
      · exact fun hsub => hsub
      · split_ifs <;> exact fun hsub => hsub
  | tokenRefresh => exact fun hsub => hsub

theorem keepsOut_timeoutCheck (env : ResponseEnv) (sweep : SweepEnv) (c : CloudContext) :
    KeepsOut c (timeoutCheck J K env sweep c) := by
  have hround : ∀ (lock : Bool) (cur : UInt32) (c : CloudContext),
      KeepsOut c (timeoutCheckRound J K env lock cur c).2 := fun lock cur c => by
    unfold timeoutCheckRound
    dsimp only
    split
    · exact fun hsub => hsub
    · exact keepsOut_respHandler J K env _ .timeout _
  have hloop : ∀ (fuel round : ℕ) (c : CloudContext),
      KeepsOut c (timeoutCheckLoop J K env sweep.lock sweep.cur fuel round c) := fun fuel => by
    induction fuel with
    | zero => exact fun _ _ hsub => hsub
    | succ fuel ih =>
      intro round c
      unfold timeoutCheckLoop
      dsimp only
      split_ifs
      · exact (hround _ _ c).trans (ih _ _)
      · exact hround _ _ c
  exact hloop _ 0 c

theorem keepsOut_recvHandled (env : RecvEnv) (pkt : CoapPacket) (payload : List UInt8) (c : CloudContext) :
    KeepsOut c (recvHandled J K env pkt payload c) := by
  unfold recvHandled
  dsimp only
  split
  · exact fun hsub => hsub
  · exact keepsOut_respHandler J K env.response _ (.resp payload) _

theorem keepsOut_sendRequest (env : RequestEnv) (h : CloudHandler) (c : CloudContext) :
    KeepsOut c (m2mCloudSendRequest J K env h c).2 := by
  have hbuild : (m2mBuildRequest env h c).2.cur = c.cur := by
    unfold m2mBuildRequest
    cases h with
    | heartbeat => split_ifs <;> rfl
    | _ => split_ifs <;> rfl
  unfold m2mCloudSendRequest
  split_ifs
  · exact fun hsub => hsub
  · exact fun hsub => hsub
  dsimp only
  split_ifs
  · exact keepsOut_of_eq hbuild
  · split
    · exact keepsOut_of_eq hbuild
    · exact keepsOut_to c _ rfl
    · exact (keepsOut_of_eq hbuild).trans (keepsOut_timeoutCheck J K env.response env.sweep _)

theorem keepsOut_request {h : CloudHandler} {wait : FsmState} (hwait : wait.sub = false) (env : RequestEnv)
    (c : CloudContext) : (requestHandler J K h wait env c).1.sub = false := by
  unfold requestHandler
  dsimp only
  split_ifs
  · rfl
  · exact hwait

theorem keepsOut_running (env : FsmEnv) (c : CloudContext) : KeepsOut c (utilsFsmRunning J K env c) := by
  have hnext : c.cur.sub = false → (fsmHandler J K env c).1.sub = false := fun hsub => by
    unfold fsmHandler
    cases hcur : c.cur with
    | init =>
      change (cloudFsmInitHandler env.init c).1.sub = false
      unfold cloudFsmInitHandler
      dsimp only
      split
      · split <;> rfl
      · split
        · rfl
        · split
          · rfl
          · split <;> rfl
    | createLink =>
      change (cloudFsmCreateLinkHandler env.create c).1.sub = false
      unfold cloudFsmCreateLinkHandler
      dsimp only
      split <;> rfl
    | connect =>
      change (cloudFsmConnectHandler env.connect c).1.sub = false
      unfold cloudFsmConnectHandler
      split
      · rfl
      · dsimp only
        split <;> rfl
    | psk => exact keepsOut_request J K rfl env.request _
    | register => exact keepsOut_request J K rfl env.request c
    | login => exact keepsOut_request J K rfl env.request c
    | authCode => exact keepsOut_request J K rfl env.request c
    | revoke => exact keepsOut_request J K rfl env.request c
    | devInfoSync => exact keepsOut_request J K rfl env.request c
    | getAuthCode => exact absurd (hcur ▸ hsub) (by decide)
    | ecoDevInfoSync => exact absurd (hcur ▸ hsub) (by decide)
    | ecoStateSync => exact absurd (hcur ▸ hsub) (by decide)
    | _ => exact (congrArg FsmState.sub hcur).symm.trans hsub
  intro hsub
  cases hcur : c.cur.sub with
  | true => rfl
  | false => exact absurd ((hnext hcur).symm.trans hsub) Bool.false_ne_true

/-! ## Steps and runs -/

section
variable {J K} {c : CloudContext}

/-- Neither an event of a sub-device nor a response. -/
def CloudEvent.isOther : CloudEvent → Bool
  | .response _ _ _ => false
  | .sleSetup _ => false
  | .sleDevInfo _ => false
  | _ => true

theorem sessionKept_other {e : CloudEvent} (he : e.isOther = true) (hkeeps : KeepsOut c (cloudStep J K c e)) :
    SessionKept J K c e where
  entered := fun hsub => .inr (hkeeps hsub)
  undisturbed := by
    rintro ⟨accepted, rfl | rfl⟩
    · cases he
    · cases he
  returned := by
    rintro env pkt payload h rfl
    cases he

theorem recvHandled_cur {env : RecvEnv} {pkt : CoapPacket} {payload : List UInt8} {h : CloudHandler}
    (hs : Succeeds J c env pkt payload h) :
    (recvHandled J K env pkt payload c).cur = if h = .ecoDevInfo then .ecoStateSync else c.cur := by
  obtain ⟨-, ⟨owner, hfind⟩, hstate, hok⟩ := hs
  unfold recvHandled
  rw [hfind]
  dsimp only
  cases h with
  | devId =>
    obtain ⟨⟨json, hjson⟩, hdevice⟩ := hok
    have hparse : m2mCloudParseAuthCodeByResponse J env.response payload = .ok := by
      rw [m2mCloudParseAuthCodeByResponse, hjson]
      exact hdevice
    unfold respHandler m2mCloudDevIdRespHandler guarded
    dsimp only
    rw [if_neg (not_not.mpr hstate), hparse]
    rfl
  | ecoDevInfo =>
    obtain ⟨json, hjson⟩ := hok
    unfold respHandler m2mCloudEcoDevInfoRespHandler guarded m2mCloudParseEcoDevInfoByResponse
    dsimp only
    rw [if_neg (not_not.mpr hstate), hjson]
    rfl
  | ecoDevState =>
    unfold respHandler m2mCloudEcoDevStateRespHandler guarded
    dsimp only
    rw [if_neg (not_not.mpr hstate), (hok : m2mCloudParseEcoDevStateByResponse J env.response payload = .ok)]
    rfl
  | _ => exact hok.elim

theorem sessionKept_response_iff (env : RecvEnv) (pkt : CoapPacket) (payload : List UInt8) :
    SessionKept J K c (.response env pkt payload) ↔ SubDeviceInTime J c (.response env pkt payload) := by
  constructor
  · intro hkept h hs
    have hreturned := hkept.returned env pkt payload h rfl hs
    rw [recvHandled_cur hs] at hreturned
    obtain ⟨-, -, hstate, hok⟩ := hs
    cases h with
    | ecoDevInfo => rfl
    | devId =>
      rw [if_neg (by decide), Option.some.inj hstate] at hreturned
      exact absurd hreturned (by decide)
    | ecoDevState =>
      rw [if_neg (by decide), Option.some.inj hstate] at hreturned
      exact absurd hreturned (by decide)
    | _ => exact hok.elim
  · intro hintime
    refine ⟨fun hsub => .inr ?_, fun he => ?_, ?_⟩
    · unfold cloudStep at hsub
      dsimp only at hsub
      split_ifs at hsub
      · exact (keepsOut_recvHandled J K env pkt payload c).trans
          (keepsOut_timeoutCheck J K env.response env.sweep _) hsub
      · exact hsub
    · rcases he with ⟨accepted, he | he⟩
      · cases he
      · cases he
    · rintro env pkt payload h ⟨⟩ hs
      rw [recvHandled_cur hs, if_pos (hintime h hs)]
      exact .inr rfl

theorem sessionKept_switch_iff {e : CloudEvent} {flag : Bool} {state : FsmState} (hstate : state.sub = true)
    (he : ∃ accepted, e = .sleSetup accepted ∨ e = .sleDevInfo accepted)
    (hstep : cloudStep J K c e = if flag then c.changeFsmTo state else c) :
    SessionKept J K c e ↔ (flag = true → c.cur.Serves) := by
  constructor
  · rintro hkept rfl
    exact hkept.entered (by rw [hstep]; exact hstate)
  · intro hserves
    have hresp : ∀ env pkt payload h, e = .response env pkt payload → Succeeds J c env pkt payload h →
        (recvHandled J K env pkt payload c).cur = .online ∨ (recvHandled J K env pkt payload c).cur.asks = true := by
      rintro env pkt payload h rfl
      obtain ⟨accepted, he | he⟩ := he
      · cases he
      · cases he
    cases flag with
    | true => exact ⟨fun _ => hserves rfl, fun _ hnot => absurd (hserves rfl) hnot, hresp⟩
    | false => exact ⟨fun hsub => .inr (by rw [hstep] at hsub; exact hsub), fun _ _ => by rw [hstep]; rfl, hresp⟩

theorem keepsOut_ite {c' : CloudContext} {p : Prop} [Decidable p] (h : KeepsOut c c') :
    KeepsOut c (if p then c' else c) := by
  split_ifs
  · exact h
  · exact fun hsub => hsub

theorem sessionKept_iff (e : CloudEvent) : SessionKept J K c e ↔ SubDeviceInTime J c e := by
  cases e with
  | response env pkt payload => exact sessionKept_response_iff env pkt payload
  | sleSetup accepted =>
    have hasks : FsmState.getAuthCode.sub = true := rfl
    exact sessionKept_switch_iff hasks ⟨accepted, .inl rfl⟩ rfl
  | sleDevInfo accepted =>
    have hasks : FsmState.ecoDevInfoSync.sub = true := rfl
    exact sessionKept_switch_iff hasks ⟨accepted, .inr rfl⟩ rfl
  | fsmTimer env => exact iff_of_true (sessionKept_other rfl (keepsOut_running J K env c)) trivial
  | timeoutCheck env sweep =>
    exact iff_of_true (sessionKept_other rfl (keepsOut_ite (keepsOut_timeoutCheck J K env sweep c))) trivial
  | linkError => exact iff_of_true (sessionKept_other rfl (keepsOut_ite (keepsOut_to c _ rfl))) trivial
  | heartbeatTimer env =>
    exact iff_of_true (sessionKept_other rfl (keepsOut_ite (keepsOut_sendRequest J K env .heartbeat c))) trivial
  | tokenTimer env now =>
    refine iff_of_true (sessionKept_other rfl (keepsOut_ite ?_)) trivial
    unfold tokenTimerCallback
    dsimp only
    split_ifs
    · exact keepsOut_sendRequest J K env .tokenRefresh c
    · exact keepsOut_sendRequest J K env .tokenRefresh c
  | registerTimeout => exact iff_of_true (sessionKept_other rfl (keepsOut_ite (keepsOut_to c _ rfl))) trivial
  | restart =>
    exact iff_of_true (sessionKept_other rfl fun hsub => Bool.noConfusion (hsub : FsmState.init.sub = true)) trivial

end

/-- From any context and for all events: the session is kept exactly if sub-devices are set up and information is taken
for them while the machine is `ONLINE` or serves sub-devices, and no authentication code of a sub-device and no state of
the devices is answered with success. -/
theorem sessionKept_along_iff (c : CloudContext) (es : List CloudEvent) :
    Along (cloudStep J K) (SessionKept J K) c es ↔ Along (cloudStep J K) (SubDeviceInTime J) c es :=
  along_step_iff (fun _ _ _ (h : True) => h) (fun _ e _ => sessionKept_iff e) trivial es

/-- The client logs in, loses its link, and a sub-device is set up while it connects again. -/
def setupWhileConnecting : List CloudEvent := sampleLogin ++ [sampleAnswer 4 11 4, .linkError] ++ [.sleSetup true]

theorem setup_interrupts_connecting :
    ¬ Along (cloudStep sampleJson sampleKdf) (SessionKept sampleJson sampleKdf) .start setupWhileConnecting ∧
      (run (cloudStep sampleJson sampleKdf) .start setupWhileConnecting).cur = .getAuthCode := by
  have hbefore : (run (cloudStep sampleJson sampleKdf) .start (sampleLogin ++ [sampleAnswer 4 11 4, .linkError])).cur =
      .connect := by decide
  have hafter : (run (cloudStep sampleJson sampleKdf) .start setupWhileConnecting).cur = .getAuthCode := by
    decide
  refine ⟨fun h => ?_, hafter⟩
  have hlast := ((along_append _ _ _ _ _).mp h).2.1
  rw [setupWhileConnecting, run_append] at hafter
  have hserves := hlast.entered (congrArg FsmState.sub hafter)
  rw [hbefore] at hserves
  exact absurd hserves (by unfold FsmState.Serves; decide)

end IotConnect.Cloud
