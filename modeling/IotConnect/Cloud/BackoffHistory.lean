import IotConnect.Cloud.Online

/-! # The waits between attempts to connect

The wait after an attempt is drawn from a range that grows with the number of attempts since the counter was reset. The
counter is reset when the link is created, and not when a login succeeds. A ledger beside the client notes the attempts
since each of the two. -/
namespace IotConnect.Cloud
open Trace Endpoint
set_option autoImplicit false

/-- The clock when the last attempt was over, and the attempts since the last successful login and since the counter was reset. -/
structure Attempts where
  last : Option UInt32
  sinceLogin : ℕ
  sinceInit : ℕ

/-- What the call of `M2mCloudLinkConnect` meets, if it is made. -/
def attempted (c : CloudContext) : CloudEvent → Option ConnectEnv
  | .fsmTimer env =>
    if c.cur = .connect ∧ env.connect.netConnected = true ∧ isM2mCloudBackoffTime env.connect.now c = false then
      some env.connect
    else none
  | _ => none

/-- `M2mCloudBackoffInit` resets the counter. -/
def resetsBackoff (c : CloudContext) : CloudEvent → Bool
  | .fsmTimer env => c.cur = .createLink ∧ c.register = false ∧ (cloudFsmCreateLinkHandler env.create c).1 = .connect
  | _ => false

variable (J : JsonAdapter) (K : (password salt : List UInt8) → List UInt8)

/-- The response to the login is taken and the machine goes on. -/
def logsIn (c : CloudContext) (e : CloudEvent) : Bool :=
  (answered c e).map Prod.fst = some .login ∧ (handledContext J K c e).cur ≠ .connect

def attemptsStep (c : CloudContext) (a : Attempts) (e : CloudEvent) : Attempts :=
  let a := match attempted c e with
    | none => a
    | some env => ⟨some env.updated, a.sinceLogin + 1, a.sinceInit + 1⟩
  { a with
    sinceLogin := if logsIn J K c e then 0 else a.sinceLogin
    sinceInit := if resetsBackoff c e then 0 else a.sinceInit }

def attemptingStep (s : CloudContext × Attempts) (e : CloudEvent) : CloudContext × Attempts :=
  (cloudStep J K s.1 e, attemptsStep J K s.1 s.2 e)

def attemptingStart : CloudContext × Attempts := (.start, ⟨none, 0, 0⟩)

/-! ## The law -/

/-- The range of the wait after `k` attempts, in milliseconds. -/
def waitLower (k : ℕ) : ℕ := if k = 1 then 0 else 5000 * 3 ^ (k - 2)
def waitUpper (k : ℕ) : ℕ := min (5000 * 3 ^ (k - 1)) (10 * 60 * 1000)

/-- The bounds that `M2mCloudBackoffUpdate` computes. -/
def backoffBounds (cnt : UInt8) : UInt32 × UInt32 :=
  let (min, max) := backoffRange cnt.toNat 0 cloudBackoffFirstMaxTime
  (min, if max > cloudBackoffMaxTime then (if min > cloudBackoffMaxTime then min else cloudBackoffMaxTime) else max)

/-- An attempt with backoff enabled is made when the wait since the one before is over, and sets a wait in the range for
the number of attempts since the last successful login, which is computed with a modulus that is not zero. -/
def BacksOff (s : CloudContext × Attempts) (e : CloudEvent) : Prop :=
  ∀ env, attempted s.1 e = some env → s.1.enableBackoff = true →
    (∀ before, s.2.last = some before → s.1.backoffInfo.interval ≤ utilsDeltaTime env.now before) ∧
    (waitLower (min (s.2.sinceLogin + 1) 6) ≤ (cloudStep J K s.1 e).backoffInfo.interval.toNat ∧
      (cloudStep J K s.1 e).backoffInfo.interval.toNat < waitUpper (min (s.2.sinceLogin + 1) 6)) ∧
    (backoffBounds s.1.backoffInfo.cnt).2 - (backoffBounds s.1.backoffInfo.cnt).1 ≠ 0

/-- The counter was last reset as many attempts ago as there are since the last successful login, five counting for
more, and an attempt right after a reset does not come too early. -/
def ResetWithLogin (s : CloudContext × Attempts) (e : CloudEvent) : Prop :=
  ∀ env, attempted s.1 e = some env → s.1.enableBackoff = true →
    (s.2.sinceInit = 0 → ∀ before, s.2.last = some before → s.1.backoffInfo.interval ≤ utilsDeltaTime env.now before) ∧
    min s.2.sinceLogin 5 = min s.2.sinceInit 5

/-! ## One attempt -/

theorem backoffBounds_eq (cnt : UInt8) : cnt.toNat ≤ 5 → (backoffBounds cnt).1.toNat = waitLower (cnt.toNat + 1) ∧
    (backoffBounds cnt).2.toNat = waitUpper (cnt.toNat + 1) ∧ (backoffBounds cnt).1 < (backoffBounds cnt).2 := by
  revert cnt
  exact Bytes.forall_byte (by decide +kernel)

/-- The ranges do not meet. -/
theorem wait_unique {k l x : ℕ} (hk : 1 ≤ k ∧ k ≤ 6) (hl : 1 ≤ l ∧ l ≤ 6) (hkx : waitLower k ≤ x ∧ x < waitUpper k)
    (hlx : waitLower l ≤ x ∧ x < waitUpper l) : k = l := by
  have hstep : ∀ j ≤ 6, ∀ i < j, 1 ≤ i → waitUpper i ≤ waitLower j := by decide
  rcases Nat.lt_trichotomy k l with hlt | heq | hgt
  · have := hstep l hl.2 k hlt hk.1
    omega
  · exact heq
  · have := hstep k hk.2 l hgt hl.1
    omega

variable {J K} {c : CloudContext}

theorem m2mCloudBackoffUpdate_enabled (henable : c.enableBackoff = true) (random now : UInt32) :
    m2mCloudBackoffUpdate random now c = { c with backoffInfo :=
      { cnt := if c.backoffInfo.cnt < cloudBackoffMaxCnt then c.backoffInfo.cnt + 1 else c.backoffInfo.cnt
        before := now
        interval := random % ((backoffBounds c.backoffInfo.cnt).2 - (backoffBounds c.backoffInfo.cnt).1) +
          (backoffBounds c.backoffInfo.cnt).1 } } := by
  unfold m2mCloudBackoffUpdate
  rw [if_neg (by rw [henable]; exact Bool.noConfusion)]
  rfl

theorem m2mCloudBackoffUpdate_interval (henable : c.enableBackoff = true) (hcnt : c.backoffInfo.cnt.toNat ≤ 5)
    (random now : UInt32) :
    waitLower (c.backoffInfo.cnt.toNat + 1) ≤ (m2mCloudBackoffUpdate random now c).backoffInfo.interval.toNat ∧
      (m2mCloudBackoffUpdate random now c).backoffInfo.interval.toNat < waitUpper (c.backoffInfo.cnt.toNat + 1) := by
  obtain ⟨hlower, hupper, hlt⟩ := backoffBounds_eq _ hcnt
  have hlt' := UInt32.lt_iff_toNat_lt.mp hlt
  have hbound := (backoffBounds c.backoffInfo.cnt).2.toNat_lt
  have hmod : random.toNat % ((backoffBounds c.backoffInfo.cnt).2.toNat - (backoffBounds c.backoffInfo.cnt).1.toNat) <
      (backoffBounds c.backoffInfo.cnt).2.toNat - (backoffBounds c.backoffInfo.cnt).1.toNat :=
    Nat.mod_lt _ (by omega)
  rw [m2mCloudBackoffUpdate_enabled henable, ← hlower, ← hupper]
  dsimp only
  rw [UInt32.toNat_add, UInt32.toNat_mod, UInt32.toNat_sub_of_le _ _ (UInt32.le_of_lt hlt), Nat.mod_eq_of_lt (by omega)]
  omega

theorem m2mCloudBackoffUpdate_counts (henable : c.enableBackoff = true) {n : ℕ}
    (hcnt : c.backoffInfo.cnt.toNat = min n 5) (random now : UInt32) :
    (m2mCloudBackoffUpdate random now c).backoffInfo.cnt.toNat = min (n + 1) 5 := by
  have hmax : cloudBackoffMaxCnt.toNat = 5 := rfl
  rw [m2mCloudBackoffUpdate_enabled henable]
  dsimp only
  split_ifs with hlt
  · rw [UInt8.lt_iff_toNat_lt, hmax, hcnt] at hlt
    have hone : (1 : UInt8).toNat = 1 := rfl
    rw [UInt8.toNat_add, hcnt, hone, Nat.mod_eq_of_lt (by omega)]
    omega
  · rw [UInt8.lt_iff_toNat_lt, hmax, hcnt] at hlt
    omega

/-! ## What leaves the backoff alone -/

/-- What the client knows about its waits. -/
def CloudContext.backoff (c : CloudContext) : Bool × BackoffInfo := (c.enableBackoff, c.backoffInfo)

theorem guarded_backoff {h : CloudHandler} {reply : Reply} {body : List UInt8 → CloudContext}
    (hbody : ∀ payload, (body payload).backoff = c.backoff) : (guarded h reply c body).backoff = c.backoff := by
  unfold guarded
  split_ifs
  · rfl
  · cases reply with
    | timeout => rfl
    | resp payload => exact hbody payload

theorem respHandler_backoff (env : ResponseEnv) (h : CloudHandler) (reply : Reply) (c : CloudContext) :
    (respHandler J K env h reply c).backoff = c.backoff := by
  unfold respHandler
  cases h with
  | pskReg =>
    refine guarded_backoff fun payload => ?_
    obtain ⟨_, _, hparse⟩ := m2mCloudParsePskResponse_context (J := J) (K := K) env c payload
    dsimp only
    rw [hparse]
    split <;> rfl
  | registerReg =>
    refine guarded_backoff fun payload => ?_
    dsimp only
    split
    · rfl
    · split
      · rfl
      · split <;> rfl
  | login =>
    refine guarded_backoff fun payload => ?_
    obtain ⟨_, hparse⟩ := m2mCloudLoginResponseParse_context (J := J) env c payload
    dsimp only
    rw [hparse]
    split <;> rfl
  | revoke => rfl
  | authCodeReg =>
    refine guarded_backoff fun payload => ?_
    obtain ⟨_, hparse⟩ := m2mCloudParseAuthCodeResponse_context (J := J) c payload
    dsimp only
    rw [hparse]
    split
    · rfl
    · obtain ⟨_, _, hinit⟩ := sleDeviceCloudFsmInit_context env _
      rw [hinit]
      rfl
  | devInfoSync =>
    refine guarded_backoff fun payload => ?_
    obtain ⟨_, _, hparse⟩ := m2mCloudParseDevInfoSyncResponse_context (J := J) env c payload
    dsimp only
    rw [hparse]
    split <;> rfl
  | devId =>
    refine guarded_backoff fun payload => ?_
    split <;> rfl
  | ecoDevInfo =>
    refine guarded_backoff fun payload => ?_
    dsimp only
    rcases m2mCloudParseEcoDevInfoByResponse_cases (J := J) c payload with hparse | ⟨-, hparse⟩
    · rw [hparse]
      split <;> rfl
    · rw [hparse]
      split <;> rfl
  | ecoDevState =>
    refine guarded_backoff fun payload => ?_
    split <;> rfl
  | heartbeat =>
    unfold m2mCloudHeartbbeatRespHandler
    cases reply with
    | timeout =>
      dsimp only
      split <;> rfl
    | resp payload =>
      dsimp only
      split
      · rfl
      · split <;> rfl
  | tokenRefresh => rfl

theorem timeoutCheck_backoff (env : ResponseEnv) (sweep : SweepEnv) (c : CloudContext) :
    (timeoutCheck J K env sweep c).backoff = c.backoff := by
  rw [timeoutCheck_eq]
  split
  · rfl
  · exact respHandler_backoff env _ .timeout _

theorem recvRespPacket_backoff (env : RecvEnv) (pkt : Coap.CoapPacket) (payload : List UInt8) (c : CloudContext) :
    (recvRespPacket J K env pkt payload c).backoff = c.backoff := by
  unfold recvRespPacket recvHandled
  rw [timeoutCheck_backoff]
  dsimp only
  split
  · rfl
  · exact respHandler_backoff env.response _ (.resp payload) _

theorem m2mCloudSendRequest_backoff (env : RequestEnv) (h : CloudHandler) (c : CloudContext) :
    (m2mCloudSendRequest J K env h c).2.backoff = c.backoff := by
  have hbuild : (m2mBuildRequest env h c).2.backoff = c.backoff := by
    unfold m2mBuildRequest
    cases h with
    | heartbeat => split_ifs <;> rfl
    | _ => split_ifs <;> rfl
  unfold m2mCloudSendRequest
  split_ifs
  · rfl
  · rfl
  dsimp only
  split_ifs
  · exact hbuild
  · split
    · exact hbuild
    · exact hbuild
    · exact (timeoutCheck_backoff env.response env.sweep _).trans hbuild

/-- Only the timer of the machine changes what the client knows about its waits. -/
theorem cloudStep_backoff {e : CloudEvent} (he : ∀ env, e ≠ .fsmTimer env) : (cloudStep J K c e).backoff = c.backoff := by
  cases e with
  | fsmTimer env => exact absurd rfl (he env)
  | response env pkt payload =>
    unfold cloudStep
    dsimp only
    split
    · exact recvRespPacket_backoff env pkt payload c
    · rfl
  | timeoutCheck env sweep =>
    unfold cloudStep
    dsimp only
    split
    · exact timeoutCheck_backoff env sweep c
    · rfl
  | heartbeatTimer env =>
    unfold cloudStep
    dsimp only
    split
    · exact m2mCloudSendRequest_backoff env .heartbeat c
    · rfl
  | tokenTimer env now =>
    unfold cloudStep tokenTimerCallback
    dsimp only
    split
    · split <;> exact m2mCloudSendRequest_backoff env .tokenRefresh c
    · rfl
  | restart => rfl
  | _ =>
    unfold cloudStep
    dsimp only
    split <;> rfl

/-! ## The turns of the machine -/

theorem utilsFsmRunning_backoff {env : FsmEnv} (hinit : c.cur ≠ .init) (hcreate : c.cur ≠ .createLink)
    (hconnect : c.cur ≠ .connect) : (utilsFsmRunning J K env c).backoff = c.backoff := by
  cases hreq : c.cur.request with
  | none =>
    rw [utilsFsmRunning, fsmHandler_stays hreq hinit hcreate hconnect]
  | some r =>
    have hbefore : c.beforeRequest.backoff = c.backoff := by
      unfold CloudContext.beforeRequest
      split <;> rfl
    rw [utilsFsmRunning, fsmHandler_request hreq]
    exact (m2mCloudSendRequest_backoff env.request r.1 _).trans hbefore

theorem cloudFsmInitHandler_disabled (env : InitEnv) (c : CloudContext) :
    (cloudFsmInitHandler env c).2.enableBackoff = false := by
  obtain ⟨_, _, _, _, hinit⟩ := cloudFsmInitHandler_context env c
  rw [hinit]

theorem cloudFsmCreateLinkHandler_backoff (env : CreateEnv) (c : CloudContext) :
    (cloudFsmCreateLinkHandler env c).2.backoff =
      if c.register = false ∧ (cloudFsmCreateLinkHandler env c).1 = .connect then
        (true, { c.backoffInfo with cnt := 0 }) else c.backoff := by
  obtain ⟨created, endpoint, hlink⟩ : ∃ created endpoint,
      m2mCloudLinkCreate env c = { c with link := false, created := created, endpoint := endpoint } := by
    unfold m2mCloudLinkCreate
    dsimp only
    split_ifs
    · exact ⟨_, _, rfl⟩
    · exact ⟨_, _, rfl⟩
  unfold cloudFsmCreateLinkHandler
  dsimp only
  rw [hlink]
  by_cases hfails : env.linkCreate ≠ .ok ∨ env.ctlInit ≠ .ok ∨ env.delInit ≠ .ok
  · rw [if_pos hfails, if_neg fun h => by cases h.2]
    rfl
  · rw [if_neg hfails]
    unfold m2mCloudBackoffInit
    cases hregister : c.register with
    | false => rfl
    | true => rfl

theorem cloudFsmConnectHandler_backoff {env : FsmEnv} (hcur : c.cur = .connect) :
    (cloudFsmConnectHandler env.connect c).2.backoff = match attempted c (.fsmTimer env) with
      | none => c.backoff
      | some env => (m2mCloudBackoffUpdate env.random env.updated c).backoff := by
  obtain ⟨link, hlink⟩ : ∃ link, (m2mCloudLinkConnect env.connect c).2 = { c with link := link } := by
    unfold m2mCloudLinkConnect
    split_ifs
    · exact ⟨_, rfl⟩
    · exact ⟨_, rfl⟩
  have hsame : (m2mCloudBackoffUpdate env.connect.random env.connect.updated { c with link := link }).backoff =
      (m2mCloudBackoffUpdate env.connect.random env.connect.updated c).backoff := by
    unfold m2mCloudBackoffUpdate
    split <;> rfl
  unfold cloudFsmConnectHandler
  by_cases hwait : env.connect.netConnected = false ∨ isM2mCloudBackoffTime env.connect.now c = true
  · have hnone : attempted c (.fsmTimer env) = none := if_neg (by grind)
    rw [if_pos hwait, hnone]
  · have hsome : attempted c (.fsmTimer env) = some env.connect := if_pos (by grind)
    rw [if_neg hwait, hsome]
    dsimp only
    rw [hlink, ← hsame]
    split
    · rfl
    · split <;> rfl

/-! ## Whole histories -/

/-- While backoff is enabled the counter says how many attempts there were since it was reset, and the clock of the last
one is known. -/
structure CountsAttempts (s : CloudContext × Attempts) : Prop where
  counted : s.1.enableBackoff = true → s.1.backoffInfo.cnt.toNat = min s.2.sinceInit 5
  before : s.1.enableBackoff = true → s.2.sinceInit ≠ 0 → s.2.last = some s.1.backoffInfo.before

theorem CountsAttempts.of_backoff {s s' : CloudContext × Attempts} (h : CountsAttempts s)
    (hbackoff : s'.1.backoff = s.1.backoff) (hinit : s'.2.sinceInit = s.2.sinceInit) (hlast : s'.2.last = s.2.last) :
    CountsAttempts s' := by
  obtain ⟨henable, hinfo⟩ := Prod.mk.inj hbackoff
  refine ⟨fun he => ?_, fun he hne => ?_⟩
  · rw [hinfo, hinit]
    exact h.counted (henable ▸ he)
  · rw [hlast, hinfo]
    exact h.before (henable ▸ he) (hinit ▸ hne)

theorem CountsAttempts.attempt {s : CloudContext × Attempts} (h : CountsAttempts s) {c' : CloudContext} {a : Attempts}
    {random now : UInt32} (hbackoff : c'.backoff = (m2mCloudBackoffUpdate random now s.1).backoff)
    (hlast : a.last = some now) (hinit : a.sinceInit = s.2.sinceInit + 1) : CountsAttempts (c', a) := by
  obtain ⟨henable, hinfo⟩ := Prod.mk.inj hbackoff
  by_cases he : s.1.enableBackoff = true
  · refine ⟨fun _ => ?_, fun _ _ => ?_⟩
    · rw [hinfo, hinit]
      exact m2mCloudBackoffUpdate_counts he (h.counted he) random now
    · rw [hinfo, hlast, m2mCloudBackoffUpdate_enabled he]
  · have hoff : c'.enableBackoff = false := by
      rw [henable, m2mCloudBackoffUpdate, if_pos (Bool.eq_false_iff.mpr he)]
      exact Bool.eq_false_iff.mpr he
    exact ⟨fun hon => absurd (hoff ▸ hon) Bool.false_ne_true, fun hon => absurd (hoff ▸ hon) Bool.false_ne_true⟩

theorem CountsAttempts.running {s : CloudContext × Attempts} (h : CountsAttempts s) (env : FsmEnv) :
    CountsAttempts (attemptingStep J K s (.fsmTimer env)) := by
  by_cases hinit : s.1.cur = .init
  · have hoff : (attemptingStep J K s (.fsmTimer env)).1.enableBackoff = false := by
      show (utilsFsmRunning J K env s.1).enableBackoff = false
      rw [utilsFsmRunning, fsmHandler_init hinit]
      exact cloudFsmInitHandler_disabled env.init s.1
    exact ⟨fun hon => absurd (hoff ▸ hon) Bool.false_ne_true, fun hon => absurd (hoff ▸ hon) Bool.false_ne_true⟩
  by_cases hcreate : s.1.cur = .createLink
  · have hnone : attempted s.1 (.fsmTimer env) = none := if_neg fun hc => absurd (hcreate ▸ hc.1) (by decide)
    have hbackoff : (attemptingStep J K s (.fsmTimer env)).1.backoff = (cloudFsmCreateLinkHandler env.create s.1).2.backoff := by
      show (utilsFsmRunning J K env s.1).backoff = _
      rw [utilsFsmRunning, fsmHandler_createLink hcreate]
      rfl
    rw [cloudFsmCreateLinkHandler_backoff] at hbackoff
    by_cases hreset : s.1.register = false ∧ (cloudFsmCreateLinkHandler env.create s.1).1 = .connect
    · have hresets : resetsBackoff s.1 (.fsmTimer env) = true := decide_eq_true ⟨hcreate, hreset⟩
      have hzero : (attemptingStep J K s (.fsmTimer env)).2.sinceInit = 0 := if_pos hresets
      rw [if_pos hreset] at hbackoff
      obtain ⟨-, hinfo⟩ := Prod.mk.inj hbackoff
      refine ⟨fun _ => ?_, fun _ hne => absurd hzero hne⟩
      rw [hinfo, hzero]
      rfl
    · have hresets : resetsBackoff s.1 (.fsmTimer env) = false := decide_eq_false fun hc => hreset hc.2
      rw [if_neg hreset] at hbackoff
      apply h.of_backoff hbackoff
      · simp [attemptingStep, attemptsStep, hnone, hresets]
      · simp [attemptingStep, attemptsStep, hnone]
  have hresets : resetsBackoff s.1 (.fsmTimer env) = false := decide_eq_false fun hc => hcreate hc.1
  by_cases hconnect : s.1.cur = .connect
  · have hbackoff : (attemptingStep J K s (.fsmTimer env)).1.backoff =
        (cloudFsmConnectHandler env.connect s.1).2.backoff := by
      show (utilsFsmRunning J K env s.1).backoff = _
      rw [utilsFsmRunning, fsmHandler_connect hconnect]
      rfl
    rw [cloudFsmConnectHandler_backoff hconnect] at hbackoff
    cases hattempt : attempted s.1 (.fsmTimer env) with
    | none =>
      rw [hattempt] at hbackoff
      apply h.of_backoff hbackoff
      · simp [attemptingStep, attemptsStep, hattempt, hresets]
      · simp [attemptingStep, attemptsStep, hattempt]
    | some now =>
      rw [hattempt] at hbackoff
      apply h.attempt hbackoff
      · simp [attemptsStep, hattempt]
      · simp [attemptsStep, hattempt, hresets]
  · have hnone : attempted s.1 (.fsmTimer env) = none := if_neg fun hc => hconnect hc.1
    apply h.of_backoff (utilsFsmRunning_backoff hinit hcreate hconnect)
    · simp [attemptingStep, attemptsStep, hnone, hresets]
    · simp [attemptingStep, attemptsStep, hnone]

theorem CountsAttempts.step (s : CloudContext × Attempts) (e : CloudEvent) (h : CountsAttempts s) :
    CountsAttempts (attemptingStep J K s e) := by
  cases e with
  | fsmTimer env => exact h.running env
  | _ => exact h.of_backoff (cloudStep_backoff fun _ he => by cases he) rfl rfl

theorem backsOff_iff {s : CloudContext × Attempts} (h : CountsAttempts s) (e : CloudEvent) :
    BacksOff J K s e ↔ ResetWithLogin s e := by
  refine forall_congr' fun now => forall_congr' fun hattempt => forall_congr' fun henable => ?_
  have hcnt := h.counted henable
  cases e with
  | fsmTimer env =>
    obtain ⟨⟨hconnect, -, htime⟩, hnow⟩ := Option.ite_none_right_eq_some.mp hattempt
    cases hnow
    have hinterval : (cloudStep J K s.1 (.fsmTimer env)).backoffInfo.interval =
        (m2mCloudBackoffUpdate env.connect.random env.connect.updated s.1).backoffInfo.interval := by
      have hbackoff := @cloudFsmConnectHandler_backoff s.1 env hconnect
      rw [hattempt] at hbackoff
      have hinfo := (Prod.mk.inj hbackoff).2
      show (utilsFsmRunning J K env s.1).backoffInfo.interval = _
      rw [utilsFsmRunning, fsmHandler_connect hconnect]
      exact congrArg BackoffInfo.interval hinfo
    have hrange := m2mCloudBackoffUpdate_interval henable (by omega) env.connect.random env.connect.updated
    have hmodulus : (backoffBounds s.1.backoffInfo.cnt).2 - (backoffBounds s.1.backoffInfo.cnt).1 ≠ 0 := by
      have hlt := (backoffBounds_eq s.1.backoffInfo.cnt (by omega)).2.2
      have hpos := Nat.sub_pos_of_lt (UInt32.lt_iff_toNat_lt.mp hlt)
      rw [← UInt32.toNat_sub_of_le _ _ (UInt32.le_of_lt hlt)] at hpos
      intro hzero
      rw [hzero] at hpos
      exact absurd hpos (by decide)
    -- an attempt that is not the first one since the reset has waited
    have hwaited : s.2.sinceInit ≠ 0 → ∀ before, s.2.last = some before →
        s.1.backoffInfo.interval ≤ utilsDeltaTime env.connect.now before := by
      intro hne before hlast
      rw [h.before henable hne] at hlast
      cases hlast
      have hpos : s.1.backoffInfo.cnt ≠ 0 := by
        intro hzero
        rw [hzero] at hcnt
        have hzero' : (0 : UInt8).toNat = 0 := rfl
        omega
      simpa [isM2mCloudBackoffTime, henable, hpos] using htime
    rw [hinterval]
    constructor
    · rintro ⟨hwait, hbounds, -⟩
      refine ⟨fun _ => hwait, ?_⟩
      have hsame := wait_unique (by omega) (by omega) hbounds hrange
      omega
    · rintro ⟨hwait, hsame⟩
      have hk : min (s.2.sinceLogin + 1) 6 = s.1.backoffInfo.cnt.toNat + 1 := by omega
      refine ⟨?_, by rw [hk]; exact hrange, hmodulus⟩
      by_cases hzero : s.2.sinceInit = 0
      · exact hwait hzero
      · exact hwaited hzero
  | _ => cases hattempt

/-- From the start of the client and for all events: attempts to connect wait and set their next wait by the law of the
backoff exactly as long as the counter was reset when the last login succeeded. -/
theorem backsOff_along_iff (es : List CloudEvent) :
    Along (attemptingStep J K) (BacksOff J K) attemptingStart es ↔
      Along (attemptingStep J K) ResetWithLogin attemptingStart es := by
  refine along_step_iff (fun s e _ (h : CountsAttempts s) => h.step s e) (fun s e h => backsOff_iff h e) ?_ es
  exact ⟨fun hon => absurd hon Bool.false_ne_true, fun hon => absurd hon Bool.false_ne_true⟩

/-- The client logs in, loses its link and connects again: the wait is that after a second attempt. -/
theorem login_keeps_backoff : ¬ Along (attemptingStep sampleJson sampleKdf) (BacksOff sampleJson sampleKdf) attemptingStart
    (sampleLogin ++ [sampleAnswer 4 11 4, .linkError] ++ [sampleTurn 5 12]) := by
  intro h
  have hlast := ((along_append _ _ _ _ _).mp h).2.1
  have hattempt : attempted (run (attemptingStep sampleJson sampleKdf) attemptingStart
      (sampleLogin ++ [sampleAnswer 4 11 4, .linkError])).1 (sampleTurn 5 12) = some ⟨true, 12, 12, 0, .ok, false⟩ := by decide
  have hwait := (hlast _ hattempt (by decide)).2.1.2
  exact absurd hwait (by decide)

end IotConnect.Cloud
