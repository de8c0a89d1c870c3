import IotConnect.Foundations.Trace
import Mathlib.Algebra.Group.Int.Defs

/-! # Verification of new Wi-Fi information (`svc_conn_action.c`, `svc_conn_net_info.c`, `svc_conn_conf.c`)

New information is stored with the flag `NEED_VERIFY`. The flag is resolved by two timers: the check of every second
sets it to `CHECKED` when it sees the network come up, and a timer of sixty seconds, started with the connection, drops
the information when the network is down. The check acts only on a change, and the timer does nothing when the network
is up, so that neither of them resolves the flag of a device that was connected before. -/
namespace IotConnect.WifiConn
open Trace
set_option autoImplicit false

inductive NetInfoFlag
  | cleared
  | needVerify
  | checked
  deriving DecidableEq

def wifiVerifyConnectTimeoutMs : ℕ := 60000
def wifiStatusCheckPeriod : ℕ := 1000
def invalidTimerFd : ℤ := -1

/-- The stored flag and information, the members of `ConnectServiceContext`, and the world around them. -/
structure ConnState where
  netFlag : NetInfoFlag
  wifiInfo : Bool
  /-- `CONN_SVC_BIT_MAP_WIFI_CONNECTED`: what the last check saw. -/
  wifiConnected : Bool
  verifyTimerFd : ℤ
  /-- When the verify timer expires. -/
  verifyDue : ℕ
  reconnectTimerFd : ℤ
  /-- What `IsNetworkConnected` finds. -/
  link : Bool
  now : ℕ
  lastCheck : ℕ
  /-- When the connection with the last information was started. -/
  startedAt : Option ℕ
  /-- A check has seen the network connected since the last information came. -/
  seen : Bool
  deriving DecidableEq

/-! ## The functions

The writes to the store succeed. Results of the adapter and of the scheduler are arguments. -/

/-- A timer is removed if there is one. -/
def removeTimer (fd : ℤ) : ℤ := if 0 ≤ fd then invalidTimerFd else fd

def wifiVerifyFailedProcess (s : ConnState) : ConnState := { s with wifiInfo := false, netFlag := .cleared }

def wifiVerifyConnectTimeoutTimerCallback (s : ConnState) : ConnState :=
  let s := { s with verifyTimerFd := invalidTimerFd }
  if s.link then s else wifiVerifyFailedProcess s

def connSvcActionConnectWifi (connectRet timerFd : ℤ) (s : ConnState) : ℤ × ConnState :=
  let s := { s with verifyTimerFd := removeTimer s.verifyTimerFd,
                    startedAt := some s.now }
  if s.netFlag ≠ .needVerify then (connectRet, s)
  else if connectRet ≠ 0 then (connectRet, wifiVerifyFailedProcess s)
  else
    let s := { s with verifyTimerFd := timerFd, verifyDue := s.now + wifiVerifyConnectTimeoutMs }
    if timerFd < 0 then (timerFd, s) else (0, s)

def wifiStatusCheckTimerCallback (timerFd : ℤ) (s : ConnState) : ConnState :=
  let s := { s with lastCheck := s.now, seen := s.seen || s.link }
  if s.link = s.wifiConnected then s
  else if s.link = false then
    let s := { s with wifiConnected := false }
    if s.netFlag ≠ .checked then s
    else if s.reconnectTimerFd < 0 then { s with reconnectTimerFd := timerFd }
    else s
  else
    let s := { s with wifiConnected := true,
                      reconnectTimerFd := removeTimer s.reconnectTimerFd }
    if s.netFlag = .checked then s
    else { s with verifyTimerFd := removeTimer s.verifyTimerFd,
                  netFlag := .checked }

/-- `SvcConnSetNetInfo`: `startRet` is the delay timer, or the subscription to the end of the access point. -/
def svcConnSetNetInfo (saveRet : ℤ) (softap : Bool) (startRet : ℤ) (s : ConnState) : ℤ × ConnState :=
  if saveRet ≠ 0 then (saveRet, s)
  else
    let s := { s with wifiInfo := true, netFlag := .needVerify, startedAt := none, seen := false }
    if softap then if startRet ≠ 0 then (startRet, s) else (0, s)
    else if startRet < 0 then (startRet, s) else (0, s)

def revokeEventWifiInfoCallback (s : ConnState) : ConnState :=
  if s.netFlag ≠ .needVerify ∧ s.netFlag ≠ .checked then s else wifiVerifyFailedProcess s

/-- `StopWifiConnectService` and `StartWifiConnectService`, with `ConnSvcCtxInit` between them after a reboot. -/
def restartWifiConnectService (reboot : Bool) (connectRet timerFd : ℤ) (s : ConnState) : ConnState :=
  let s := { s with verifyTimerFd := invalidTimerFd, reconnectTimerFd := invalidTimerFd,
                    wifiConnected := if reboot then false else s.wifiConnected, lastCheck := s.now }
  if s.netFlag = .needVerify ∨ s.netFlag = .checked then (connSvcActionConnectWifi connectRet timerFd s).2 else s

/-! ## Runs -/

inductive ConnEvent
  /-- Time passes. -/
  | advance (ms : ℕ)
  /-- The network comes up or goes down. -/
  | link (connected : Bool)
  | check (timerFd : ℤ)
  | verifyTimeout
  /-- The delay timer expires or the access point has stopped. -/
  | connect (connectRet timerFd : ℤ)
  | setNetInfo (saveRet : ℤ) (softap : Bool) (startRet : ℤ)
  | revoke
  | restart (reboot : Bool) (connectRet timerFd : ℤ)

def connStep (s : ConnState) : ConnEvent → ConnState
  | .advance ms => { s with now := s.now + ms }
  | .link connected => { s with link := connected }
  | .check timerFd => wifiStatusCheckTimerCallback timerFd s
  | .verifyTimeout => wifiVerifyConnectTimeoutTimerCallback s
  | .connect connectRet timerFd => (connSvcActionConnectWifi connectRet timerFd s).2
  | .setNetInfo saveRet softap startRet => (svcConnSetNetInfo saveRet softap startRet s).2
  | .revoke => revokeEventWifiInfoCallback s
  | .restart reboot connectRet timerFd => restartWifiConnectService reboot connectRet timerFd s

/-- A device that was never configured. -/
def bootState : ConnState where
  netFlag := .cleared
  wifiInfo := false
  wifiConnected := false
  verifyTimerFd := invalidTimerFd
  verifyDue := 0
  reconnectTimerFd := invalidTimerFd
  link := false
  now := 0
  lastCheck := 0
  startedAt := none
  seen := false

/-- The scheduler keeps its times: no time passes over a timer, and the verify timer does not expire early. -/
def OnTime (s : ConnState) : ConnEvent → Prop
  | .advance ms => (0 ≤ s.verifyTimerFd → s.now + ms ≤ s.verifyDue) ∧ s.now + ms ≤ s.lastCheck + wifiStatusCheckPeriod
  | .verifyTimeout => 0 ≤ s.verifyTimerFd ∧ s.verifyDue ≤ s.now
  | _ => True

/-- A connection that has to be verified starts with the network not seen connected, and gets its timer. -/
def StartSound (s : ConnState) (wifiConnected : Bool) (connectRet timerFd : ℤ) : Prop :=
  s.netFlag = .needVerify → connectRet = 0 → wifiConnected = false ∧ 0 ≤ timerFd

/-- The steps that leave the flag to a timer that will resolve it. When the verify timer expires on information that is
being verified, the last check has seen the network as it is. -/
def Sound (s : ConnState) : ConnEvent → Prop
  | .connect connectRet timerFd => StartSound s s.wifiConnected connectRet timerFd
  | .restart reboot connectRet timerFd => StartSound s (if reboot then false else s.wifiConnected) connectRet timerFd
  | .verifyTimeout => s.netFlag = .needVerify → s.startedAt.isSome = true → s.link = s.wifiConnected
  | _ => True

/-- The information was verified, or dropped. -/
def Resolved (s : ConnState) : Prop :=
  (s.netFlag = .checked ∧ s.seen = true) ∨ (s.netFlag = .cleared ∧ s.wifiInfo = false)

/-- The period of verification has passed. -/
def PeriodOver (s : ConnState) : Prop := ∃ t ∈ s.startedAt, t + wifiVerifyConnectTimeoutMs < s.now

/-! ## The invariant -/

structure Verifying (s : ConnState) : Prop where
  armed : ∀ t, s.netFlag = .needVerify → s.startedAt = some t →
    s.wifiConnected = false ∧ 0 ≤ s.verifyTimerFd ∧ s.verifyDue = t + wifiVerifyConnectTimeoutMs
  onTime : 0 ≤ s.verifyTimerFd → s.now ≤ s.verifyDue
  cleared : s.netFlag = .cleared → s.wifiInfo = false
  checked : s.netFlag = .checked → s.seen = true

theorem bootState_verifying : Verifying bootState := by
  constructor
  · intro t h
    cases h
  · decide
  · decide
  · intro h
    cases h

variable {s : ConnState}

/-- Without the verify timer the invariant asks only that the flag does not wait for it. -/
theorem verifying_of_removed (hfd : s.verifyTimerFd < 0) (hflag : s.netFlag ≠ .needVerify)
    (hcleared : s.netFlag = .cleared → s.wifiInfo = false) (hchecked : s.netFlag = .checked → s.seen = true) :
    Verifying s where
  armed := fun _ hneed => absurd hneed hflag
  onTime := fun hpos => absurd hpos (Int.not_le.mpr hfd)
  cleared := hcleared
  checked := hchecked

theorem removeTimer_neg (fd : ℤ) : removeTimer fd < 0 := by
  unfold removeTimer
  split_ifs with hfd
  · decide
  · exact Int.not_le.mp hfd

theorem failed_ne : NetInfoFlag.cleared ≠ .needVerify ∧ NetInfoFlag.cleared ≠ .checked := by decide

/-- A connection may start in any state of the timers. -/
theorem connect_verifying (hcleared : s.netFlag = .cleared → s.wifiInfo = false)
    (hchecked : s.netFlag = .checked → s.seen = true) {connectRet timerFd : ℤ}
    (hsound : StartSound s s.wifiConnected connectRet timerFd) :
    Verifying (connSvcActionConnectWifi connectRet timerFd s).2 := by
  have hremoved := removeTimer_neg s.verifyTimerFd
  unfold connSvcActionConnectWifi
  dsimp only
  split_ifs with hneed hret hfd
  · exact verifying_of_removed hremoved hneed hcleared hchecked
  · exact verifying_of_removed hremoved failed_ne.1 (fun _ => rfl) (fun h => absurd h failed_ne.2)
  · exact absurd (hsound (not_not.mp hneed) (not_not.mp hret)).2 (Int.not_le.mpr hfd)
  · obtain ⟨hconnected, hpos⟩ := hsound (not_not.mp hneed) (not_not.mp hret)
    refine Verifying.mk ?_ (fun _ => Nat.le_add_right _ _) hcleared hchecked
    intro t _ hstart
    cases hstart
    exact ⟨hconnected, hpos, rfl⟩

theorem Verifying.check (h : Verifying s) (timerFd : ℤ) : Verifying (wifiStatusCheckTimerCallback timerFd s) := by
  have hseen (hflag : s.netFlag = .checked) : (s.seen || s.link) = true := by
    rw [h.checked hflag]
    rfl
  unfold wifiStatusCheckTimerCallback
  dsimp only
  split_ifs with hsame hdown hflag hreconnect hchecked
  · exact ⟨h.armed, h.onTime, h.cleared, hseen⟩
  · exact ⟨fun t hneed hstart => ⟨rfl, (h.armed t hneed hstart).2⟩, h.onTime, h.cleared, hseen⟩
  · exact ⟨fun t hneed hstart => ⟨rfl, (h.armed t hneed hstart).2⟩, h.onTime, h.cleared, hseen⟩
  · exact ⟨fun t hneed hstart => ⟨rfl, (h.armed t hneed hstart).2⟩, h.onTime, h.cleared, hseen⟩
  · refine ⟨fun t hneed => ?_, h.onTime, h.cleared, hseen⟩
    rw [hchecked] at hneed
    cases hneed
  · have hlink : s.link = true := eq_true_of_ne_false hdown
    refine verifying_of_removed (removeTimer_neg s.verifyTimerFd) ?_ ?_ ?_
    · intro hneed
      cases hneed
    · intro hcleared
      cases hcleared
    · intro _
      dsimp only
      rw [hlink, Bool.or_true]

theorem Verifying.timeout (h : Verifying s)
    (hlink : s.netFlag = .needVerify → s.startedAt.isSome = true → s.link = s.wifiConnected) :
    Verifying (wifiVerifyConnectTimeoutTimerCallback s) := by
  have hremoved : ¬ 0 ≤ invalidTimerFd := by decide
  unfold wifiVerifyConnectTimeoutTimerCallback
  dsimp only
  split_ifs with hup
  · refine Verifying.mk ?_ (fun hpos => absurd hpos hremoved) h.cleared h.checked
    -- the check has seen the network, so that the flag does not wait for the timer
    intro t hneed hstart
    have hseen := (h.armed t hneed hstart).1
    rw [← hlink hneed (Option.isSome_of_eq_some hstart), hup] at hseen
    cases hseen
  · exact verifying_of_removed (Int.not_le.mp hremoved) failed_ne.1 (fun _ => rfl) (fun h => absurd h failed_ne.2)

theorem Verifying.setNetInfo (h : Verifying s) (saveRet : ℤ) (softap : Bool) (startRet : ℤ) :
    Verifying (svcConnSetNetInfo saveRet softap startRet s).2 := by
  have hstored : Verifying { s with wifiInfo := true, netFlag := .needVerify, startedAt := none, seen := false } := by
    refine Verifying.mk ?_ h.onTime ?_ ?_
    · intro t _ hstart
      cases hstart
    · intro hflag
      cases hflag
    · intro hflag
      cases hflag
  unfold svcConnSetNetInfo
  dsimp only
  split_ifs
  · exact h
  all_goals exact hstored

theorem Verifying.restart (h : Verifying s) {reboot : Bool} {connectRet timerFd : ℤ}
    (hsound : StartSound s (if reboot then false else s.wifiConnected) connectRet timerFd) :
    Verifying (restartWifiConnectService reboot connectRet timerFd s) := by
  unfold restartWifiConnectService
  dsimp only
  by_cases hflag : s.netFlag = .needVerify ∨ s.netFlag = .checked
  · rw [if_pos hflag]
    refine connect_verifying ?_ ?_ ?_
    · exact h.cleared
    · exact h.checked
    · exact hsound
  · rw [if_neg hflag]
    exact verifying_of_removed (show invalidTimerFd < 0 by decide) (fun hneed => hflag (.inl hneed)) h.cleared h.checked

theorem Verifying.revoke (h : Verifying s) : Verifying (revokeEventWifiInfoCallback s) := by
  unfold revokeEventWifiInfoCallback
  split_ifs
  · exact h
  · refine Verifying.mk ?_ h.onTime (fun _ => rfl) ?_
    · intro t hneed
      exact absurd hneed failed_ne.1
    · intro hchecked
      exact absurd hchecked failed_ne.2

theorem Verifying.step (s : ConnState) (e : ConnEvent) (hstep : OnTime s e ∧ Sound s e) (h : Verifying s) :
    Verifying (connStep s e) := by
  obtain ⟨htime, hsound⟩ := hstep
  cases e with
  | advance ms => exact ⟨h.armed, htime.1, h.cleared, h.checked⟩
  | link connected => exact ⟨h.armed, h.onTime, h.cleared, h.checked⟩
  | check timerFd => exact h.check timerFd
  | verifyTimeout => exact h.timeout hsound
  | connect connectRet timerFd => exact connect_verifying h.cleared h.checked hsound
  | setNetInfo saveRet softap startRet => exact h.setNetInfo saveRet softap startRet
  | revoke => exact h.revoke
  | restart reboot connectRet timerFd => exact h.restart hsound

/-- While the flag waits, the period is not over: the verify timer is still running. -/
theorem Verifying.resolved (h : Verifying s) (hover : PeriodOver s) : Resolved s := by
  obtain ⟨t, hstart, hlate⟩ := hover
  cases hflag : s.netFlag with
  | cleared => exact .inr ⟨hflag, h.cleared hflag⟩
  | checked => exact .inl ⟨hflag, h.checked hflag⟩
  | needVerify =>
    obtain ⟨-, hpos, hdue⟩ := h.armed t hflag hstart
    have htime := h.onTime hpos
    omega

/-- In every run whose connections start with the network not seen connected and with a timer, and in which the
network does not change between the last check and the end of the period of information that is being verified, the
period ends with a resolved flag. -/
theorem verification_resolves (es : List ConnEvent)
    (hrun : Along connStep (fun s e => OnTime s e ∧ Sound s e) bootState es)
    (hover : PeriodOver (run connStep bootState es)) : Resolved (run connStep bootState es) :=
  (run_invariant Verifying.step hrun bootState_verifying).resolved hover

instance decidableOnTime (s : ConnState) : ∀ e, Decidable (OnTime s e)
  | .advance _ => inferInstanceAs (Decidable (_ ∧ _))
  | .verifyTimeout => inferInstanceAs (Decidable (_ ∧ _))
  | .link _ | .check _ | .connect _ _ | .setNetInfo _ _ _ | .revoke | .restart _ _ _ => .isTrue trivial

instance decidableSound (s : ConnState) : ∀ e, Decidable (Sound s e)
  | .connect _ _ => inferInstanceAs (Decidable (_ → _ → _ ∧ _))
  | .restart _ _ _ => inferInstanceAs (Decidable (_ → _ → _ ∧ _))
  | .verifyTimeout => inferInstanceAs (Decidable (_ → _ → _ = _))
  | .advance _ | .link _ | .check _ | .setNetInfo _ _ _ | .revoke => .isTrue trivial

/-- A minute with its checks, the end of the verify timer and a millisecond more. -/
def verifyPeriod : List ConnEvent :=
  (List.replicate 60 [.advance 1000, .check 9]).flatten ++ [.verifyTimeout, .advance 1]

/-- New information for a network that never comes up. -/
def unreachableNetwork : List ConnEvent := [.setNetInfo 0 false 3, .advance 10, .check 9, .connect 0 4] ++ verifyPeriod

set_option maxRecDepth 20000 in
theorem unreachableNetwork_dropped :
    PeriodOver (run connStep bootState unreachableNetwork) ∧
    Along connStep (fun s e => OnTime s e ∧ Sound s e) bootState unreachableNetwork ∧
    Resolved (run connStep bootState unreachableNetwork) := by
  have hover : PeriodOver (run connStep bootState unreachableNetwork) := ⟨10, by decide, by decide⟩
  have hrun : Along connStep (fun s e => OnTime s e ∧ Sound s e) bootState unreachableNetwork := by decide
  exact ⟨hover, hrun, verification_resolves unreachableNetwork hrun hover⟩

/-- A device that is connected gets new information: the network stays up all the time. -/
def connectedBefore : List ConnEvent :=
  [.setNetInfo 0 false 3, .advance 10, .connect 0 4, .link true, .check 9, .setNetInfo 0 false 3, .advance 10, .check 9,
    .connect 0 4] ++ verifyPeriod

set_option maxRecDepth 20000 in
theorem connectedBefore_unresolved :
    Along connStep OnTime bootState connectedBefore ∧
    PeriodOver (run connStep bootState connectedBefore) ∧
    (run connStep bootState connectedBefore).netFlag = .needVerify ∧
    ¬ Resolved (run connStep bootState connectedBefore) := by
  have hflag : (run connStep bootState connectedBefore).netFlag = .needVerify := by decide
  refine ⟨by decide, ⟨20, by decide, by decide⟩, hflag, ?_⟩
  unfold Resolved
  rw [hflag]
  decide

end IotConnect.WifiConn
