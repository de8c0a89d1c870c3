import IotConnect.Cloud.Token

/-! # Refreshing the cloud token

What a refresh is for: a granted token replaces the stored one, and as long as refreshes fail there is
another attempt before the stored one runs out. The handler of the response never stores anything, because
error code `0` is taken for a device reset, and the timer, which repeats the wait for the first attempt,
comes back too late for a second one, unless most of the lifetime had passed when it was started. -/
namespace IotConnect.Cloud
open Timer (TimerNode)
open Trace
set_option autoImplicit false

def TokenState.elapsed (s : TokenState) (now : UInt32) : ℕ := (utilsDeltaTime now s.tokenInfo.updateTime).toNat

/-- The wait between two requests, and when the next one is due, counted from when the token was stored. -/
structure Schedule where
  wait : ℕ
  due : ℕ

/-- A turn of the event loop at the time `t`. At the very time a timer is due it is called only if the check has found
another one that is late. -/
def Schedule.turn (t : ℕ) (dispatch : Bool) (p : Schedule) : Schedule :=
  if p.due < t ∨ p.due = t ∧ dispatch = true then { p with due := t + p.wait } else p

/-- What a turn does to the node of the timer, and whether its callback is called. -/
def tokenTurn (now : UInt32) (dispatch : Bool) (node : TimerNode Unit) : TimerNode Unit × Bool :=
  let ready := node.remainTime < utilsDeltaTime now node.lastTime
  let node := node.check now
  if (ready ∨ dispatch = true) ∧ node.remainTime = 0 then (node.rewind, true) else (node, false)

/-- The schedule that a node has for the time from `start` on. -/
def nodeSchedule (start : UInt32) (node : TimerNode Unit) : Schedule :=
  ⟨node.interval.toNat, (utilsDeltaTime node.lastTime start).toNat + node.remainTime.toNat⟩

theorem delta_toNat {start last now : UInt32} (h : (last - start).toNat ≤ (now - start).toNat) :
    (now - last).toNat = (now - start).toNat - (last - start).toNat := by
  have e : now - last = (now - start) - (last - start) := by grind
  rw [e, UInt32.toNat_sub_of_le _ _ h]

theorem tokenTurn_schedule {start now : UInt32} {node : TimerNode Unit} (dispatch : Bool)
    (h : (utilsDeltaTime node.lastTime start).toNat ≤ (utilsDeltaTime now start).toNat) :
    nodeSchedule start (tokenTurn now dispatch node).1 =
      (nodeSchedule start node).turn (utilsDeltaTime now start).toNat dispatch := by
  simp only [utilsDeltaTime_eq] at h
  have hdelta := delta_toNat h
  unfold tokenTurn TimerNode.check
  simp only [utilsDeltaTime_eq, UInt32.lt_iff_toNat_lt, ← UInt32.toNat_inj]
  by_cases hlate : node.remainTime.toNat < (now - node.lastTime).toNat
  · -- the check has found the timer late, and sets its rest to nothing
    simp only [hlate, true_or, true_and, UInt32.toNat_zero, if_true]
    rw [Schedule.turn, if_pos (.inl (by simp only [nodeSchedule, utilsDeltaTime_eq]; omega))]
    simp only [nodeSchedule, TimerNode.rewind, utilsDeltaTime_eq]
  · have hrest : (node.remainTime - (now - node.lastTime)).toNat =
        node.remainTime.toNat - (now - node.lastTime).toNat :=
      UInt32.toNat_sub_of_le _ _ (UInt32.le_iff_toNat_le.mpr (Nat.not_lt.mp hlate))
    simp only [hlate, if_false, false_or, hrest, UInt32.toNat_zero]
    have hiff : ((nodeSchedule start node).due < (now - start).toNat ∨
        (nodeSchedule start node).due = (now - start).toNat ∧ dispatch = true) ↔
        dispatch = true ∧ node.remainTime.toNat - (now - node.lastTime).toNat = 0 := by
      simp only [nodeSchedule, utilsDeltaTime_eq]
      constructor
      · rintro (hlt | ⟨heq, hdispatch⟩)
        · omega
        · exact ⟨hdispatch, by omega⟩
      · rintro ⟨hdispatch, hzero⟩
        exact .inr ⟨by omega, hdispatch⟩
    rw [Schedule.turn]
    by_cases hcall : dispatch = true ∧ node.remainTime.toNat - (now - node.lastTime).toNat = 0
    · rw [if_pos hcall, if_pos (hiff.mpr hcall)]
      simp only [nodeSchedule, TimerNode.rewind, utilsDeltaTime_eq]
    · rw [if_neg hcall, if_neg (mt hiff.mp hcall)]
      simp only [nodeSchedule, utilsDeltaTime_eq, hrest, Schedule.mk.injEq, true_and]
      omega

/-! ## Runs -/

/-- What happens after a login: a turn of the event loop, or the end of a request for a refresh. -/
inductive TokenEvent
  | turn (now : UInt32) (dispatch : Bool)
  | reply (env : TokenEnv) (reply : Reply)

/-- The state, how many requests have failed in a row, and the schedule, which follows from the login and the clock. -/
structure TokenRun where
  state : TokenState
  fails : ℕ
  plan : Option Schedule

variable (J : JsonAdapter)

/-- The token that a well-formed object grants. -/
def grantedBy (env : TokenEnv) (json : J.Obj) : Option CloudTokenInfo :=
  match getTokenInfo J json with
  | .error _ => none
  | .ok token =>
    if updateTimeStamp J env json = .ok ∧ token.access ≠ [] ∧ token.refresh ≠ [] ∧ token.timeout ≠ 0 then some token
    else none

/-- The token of a well-formed response with error code `0`. -/
def granted (env : TokenEnv) : Reply → Option CloudTokenInfo
  | .timeout => none
  | .resp payload =>
    match J.parseWithLen payload with
    | none => none
    | some json => if (J.getObj json "errcode").bind J.num = some 0 then grantedBy J env json else none

def tokenStep (r : TokenRun) : TokenEvent → TokenRun
  | .turn now dispatch =>
    match r.state.tokenTimer with
    | none => r
    | some node =>
      let (node, called) := tokenTurn now dispatch node
      let s := { r.state with tokenTimer := some node }
      { r with
        state := if called then (tokenUpdateTimerCallback now s).2 else s
        plan := r.plan.map (Schedule.turn (r.state.elapsed now) dispatch) }
  | .reply env reply =>
    { r with
      state := cloudTokenRefreshRespHandler J env reply r.state
      fails := if (granted J env reply).isSome then 0 else r.fails + 1 }

/-- The schedule that a login starts for a token of which `info` is kept. -/
def firstPlan (env : TokenEnv) (info : TokenInfo) : Option Schedule :=
  match calcWaitTime env.calcTime info, env.timerAdd with
  | .ok waitTime, .ok _ =>
    some ⟨waitTime.toNat, (utilsDeltaTime env.addTime info.updateTime).toNat + waitTime.toNat⟩
  | _, _ => none

/-- What a login keeps of a token. -/
def loginInfo (token : CloudTokenInfo) (stored : UInt32) : TokenInfo :=
  ⟨token.access, token.refresh, token.timeout, stored, 0⟩

/-- The response to a login grants `token`. -/
def loginRun (env : TokenEnv) (json : J.Obj) (token : CloudTokenInfo) : TokenRun :=
  ⟨(parseTokenInfo J env TokenState.init json).2, 0, firstPlan env (loginInfo token env.updateTime)⟩

/-- The clock does not go back, and does not come round to when the token was stored. -/
def ClockForward (r : TokenRun) : TokenEvent → Prop
  | .turn now _ => ∀ node, r.state.tokenTimer = some node → r.state.elapsed node.lastTime ≤ r.state.elapsed now
  | .reply _ _ => True

/-- The schedule has a request before the lifetime has passed. -/
def Planned (plan : Option Schedule) (timeout : UInt32) : Prop := ∃ p, plan = some p ∧ p.due < timeout.toNat

theorem dealErrCodeRsp_of_ok (env : TokenEnv) : dealErrCodeRsp env 0 = 0 := rfl

theorem cloudTokenRefreshRespHandler_eq (env : TokenEnv) (reply : Reply) (s : TokenState) :
    cloudTokenRefreshRespHandler J env reply s = s := by
  cases reply with
  | timeout => rfl
  | resp payload =>
    unfold cloudTokenRefreshRespHandler
    dsimp only
    split
    · rfl
    · split
      · rfl
      · split_ifs with hdeal hcode
        · rfl
        · rfl
        · rw [not_not.mp hcode] at hdeal
          exact absurd (dealErrCodeRsp_of_ok env) hdeal

theorem tokenUpdateTimerCallback_state (now : UInt32) (s : TokenState) : (tokenUpdateTimerCallback now s).2 = s := by
  unfold tokenUpdateTimerCallback
  split <;> rfl

/-! ## The token of the login and its schedule -/

/-- The token of the login is kept, and the node of the timer has the schedule. -/
structure Scheduled (login : CloudTokenInfo) (stored : UInt32) (r : TokenRun) : Prop where
  info : r.state.tokenInfo = loginInfo login stored
  plan : r.state.tokenTimer.map (nodeSchedule stored) = r.plan

variable {login : CloudTokenInfo} {stored : UInt32} {r : TokenRun}

theorem Scheduled.elapsed_eq (h : Scheduled login stored r) (now : UInt32) :
    r.state.elapsed now = (utilsDeltaTime now stored).toNat := by
  rw [TokenState.elapsed, h.info]
  rfl

theorem Scheduled.step (h : Scheduled login stored r) {e : TokenEvent} (hclock : ClockForward r e) :
    Scheduled login stored (tokenStep J r e) := by
  cases e with
  | reply env reply =>
    simp only [tokenStep, cloudTokenRefreshRespHandler_eq]
    exact ⟨h.info, h.plan⟩
  | turn now dispatch =>
    unfold tokenStep
    cases htimer : r.state.tokenTimer with
    | none => exact h
    | some node =>
      have hnow := hclock node htimer
      rw [h.elapsed_eq, h.elapsed_eq] at hnow
      have hplan := h.plan
      rw [htimer, Option.map_some] at hplan
      simp only [tokenUpdateTimerCallback_state, ite_self]
      refine ⟨h.info, ?_⟩
      simp only [Option.map_some, ← hplan, h.elapsed_eq, tokenTurn_schedule dispatch hnow]

theorem nextReqTime_toNat (timeout : UInt32) :
    (timeout - (timeout >>> 5) * (tokenMaxReqTime - 0)).toNat = timeout.toNat - 4 * (timeout.toNat / 32) := by
  have hlt := timeout.toNat_lt
  have hshift : (timeout >>> 5).toNat = timeout.toNat / 32 := by
    rw [UInt32.toNat_shiftRight]
    exact Nat.shiftRight_eq_div_pow _ 5
  have hmul : ((timeout >>> 5) * (tokenMaxReqTime - 0)).toNat = 4 * (timeout.toNat / 32) := by
    rw [UInt32.toNat_mul, hshift]
    show timeout.toNat / 32 * 4 % 2 ^ 32 = _
    omega
  rw [UInt32.toNat_sub_of_le _ _ (UInt32.le_iff_toNat_le.mpr (by omega)), hmul]

/-- A login of which at most three quarters of the lifetime have passed has a schedule whose second request is late. -/
theorem firstPlan_late {env : TokenEnv} {p : Schedule} (hplan : firstPlan env (loginInfo login stored) = some p)
    (hadd : (env.calcTime - stored).toNat ≤ (env.addTime - stored).toNat)
    (hprompt : (env.calcTime - stored).toNat + 8 * (login.timeout.toNat / 32) ≤ login.timeout.toNat) :
    login.timeout.toNat ≤ p.due + p.wait := by
  have hnext := nextReqTime_toNat login.timeout
  unfold firstPlan at hplan
  split at hplan
  · rename_i waitTime _ hwait _
    cases hplan
    simp only [calcWaitTime, utilsDeltaTime_eq, loginInfo] at hwait ⊢
    split_ifs at hwait with hexpired hpast
    · cases hwait
      have hpast' := UInt32.le_iff_toNat_le.mp hpast
      have hfresh : ¬ login.timeout.toNat ≤ (env.calcTime - stored).toNat := fun hle =>
        hexpired (.inl (UInt32.le_iff_toNat_le.mpr hle))
      simp only [UInt32.toNat_zero]
      omega
    · cases hwait
      rw [UInt32.toNat_sub_of_le _ _ (UInt32.le_of_lt (UInt32.not_le.mp hpast)), hnext]
      have hlt := UInt32.lt_iff_toNat_lt.mp (UInt32.not_le.mp hpast)
      omega
  · cases hplan

/-- After a login without delay, once a request has been made the next one is not planned in the lifetime. -/
theorem refresh_retry_late {env : TokenEnv} (json : J.Obj) (es : List TokenEvent)
    (hadd : (env.calcTime - env.updateTime).toNat ≤ (env.addTime - env.updateTime).toNat)
    (hprompt : (env.calcTime - env.updateTime).toNat + 8 * (login.timeout.toNat / 32) ≤ login.timeout.toNat) :
    (run (tokenStep J) (loginRun J env json login) es).plan = firstPlan env (loginInfo login env.updateTime) ∨
      ¬ Planned (run (tokenStep J) (loginRun J env json login) es).plan login.timeout := by
  have hstep : ∀ r e, True → (r.plan = firstPlan env (loginInfo login env.updateTime) ∨ ¬ Planned r.plan login.timeout) →
      ((tokenStep J r e).plan = firstPlan env (loginInfo login env.updateTime) ∨
        ¬ Planned (tokenStep J r e).plan login.timeout) := by
    intro r e _ h
    cases e with
    | reply env' reply => exact h
    | turn now dispatch =>
      unfold tokenStep
      cases r.state.tokenTimer with
      | none => exact h
      | some node =>
        dsimp only
        cases hplan : r.plan with
        | none => exact .inr fun ⟨p, hp, _⟩ => by cases hp
        | some p =>
          rw [hplan] at h
          simp only [Option.map_some, Schedule.turn]
          split_ifs with hcalled
          · refine .inr fun ⟨q, hq, hlt⟩ => ?_
            obtain rfl := Option.some.inj hq
            dsimp only at hlt
            rcases h with hfirst | hlate
            · have := firstPlan_late hfirst.symm hadd hprompt
              omega
            · exact hlate ⟨p, rfl, by omega⟩
          · exact h
  exact run_invariant hstep (along_of_forall (fun _ _ _ => trivial) _) (.inl rfl)

end IotConnect.Cloud
