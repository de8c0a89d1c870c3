import IotConnect.Cloud.Dispatch

/-! # What it takes to be online

The cloud client is to be online only when the key exchange, the registration if there was one to make, the
login, the sync of the device and the request for the authentication code have all been answered with error
code `0` on the connection. A ledger beside the client notes the responses that were taken since the last
connect. -/
namespace IotConnect.Cloud
open Trace Endpoint
set_option autoImplicit false

/-- The responses that were taken in the state that waits for them since the last connect, newest first,
with the error codes they carry; `needReg` says whether the connect was made to register. -/
structure Ledger where
  needReg : Bool
  received : List (CloudHandler × Option Rat)
  deriving DecidableEq

def requiredResponses (needReg : Bool) : List CloudHandler :=
  [.authCodeReg, .devInfoSync, .login] ++ (if needReg then [.registerReg] else []) ++ [.pskReg]

def Ledger.Complete (l : Ledger) : Prop := l.received = (requiredResponses l.needReg).map (·, some 0)

instance (l : Ledger) : Decidable l.Complete := inferInstanceAs (Decidable (_ = _))

def connects (c : CloudContext) : CloudEvent → Bool
  | .fsmTimer env => c.cur = .connect ∧ (cloudFsmConnectHandler env.connect c).1 = .psk
  | _ => false

/-- The request that a response answers in the state that waits for it, and the payload. -/
def answered (c : CloudContext) : CloudEvent → Option (CloudHandler × List UInt8)
  | .response env pkt payload =>
    if c.link then
      ((getRespHandler env.lock c.endpoint.client pkt).1.map RespHandler.fn).bind fun h =>
        if h.waitState = some c.cur then some (h, payload) else none
    else none
  | _ => none

variable (J : JsonAdapter) (K : (password salt : List UInt8) → List UInt8)

def ledgerStep (c : CloudContext) (l : Ledger) (e : CloudEvent) : Ledger :=
  if connects c e then ⟨c.register, []⟩
  else
    match answered c e with
    | none => l
    | some (h, payload) => { l with received := (h, writtenErrcode J payload) :: l.received }

def recordedStep (s : CloudContext × Ledger) (e : CloudEvent) : CloudContext × Ledger :=
  (cloudStep J K s.1 e, ledgerStep J s.1 s.2 e)

def recordedStart : CloudContext × Ledger := (.start, ⟨false, []⟩)

/-- The context when the handler of a response has returned, before the sweep that ends the step. -/
def handledContext (c : CloudContext) : CloudEvent → CloudContext
  | .response env pkt payload => if c.link then recvHandled J K env pkt payload c else c
  | e => cloudStep J K c e

def MovesOnline (c : CloudContext) (e : CloudEvent) : Prop :=
  c.cur ≠ .online ∧ (handledContext J K c e).cur = .online

instance (c : CloudContext) (e : CloudEvent) : Decidable (MovesOnline J K c e) :=
  inferInstanceAs (Decidable (_ ∧ _))

/-- The response that is taken carries no error code that passes for `0`: none whose whole part is a multiple of
`2 ^ 32`, and no error code at all if it is the one with the authentication code. -/
def HonestCode (c : CloudContext) (e : CloudEvent) : Prop :=
  ∀ r ∈ answered c e, ∀ code ∈ writtenErrcode J r.2, code = 0 ∨ ¬ 2 ^ 32 ∣ J.toInt64 code ∧ r.1 ≠ .authCodeReg

instance (c : CloudContext) (e : CloudEvent) : Decidable (HonestCode J c e) :=
  inferInstanceAs (Decidable (∀ _ ∈ _, _))

/-! ## The responses behind a state -/

/-- The responses that have been taken on the way to a state, for the states between connecting and being
online. -/
def responsesBehind (needReg : Bool) : FsmState → Option (List CloudHandler)
  | .psk => some []
  | .pskWaitResp => some []
  | .register => some [.pskReg]
  | .registerWaitResp => some [.pskReg]
  | .login => some ((if needReg then [.registerReg] else []) ++ [.pskReg])
  | .loginWaitResp => some ((if needReg then [.registerReg] else []) ++ [.pskReg])
  | .devInfoSync => some (.login :: (if needReg then [.registerReg] else []) ++ [.pskReg])
  | .devInfoSyncWaitResp => some (.login :: (if needReg then [.registerReg] else []) ++ [.pskReg])
  | .authCode => some (.devInfoSync :: .login :: (if needReg then [.registerReg] else []) ++ [.pskReg])
  | .authCodeWaitResp => some (.devInfoSync :: .login :: (if needReg then [.registerReg] else []) ++ [.pskReg])
  | .online => some (requiredResponses needReg)
  | _ => none

/-- The ledger has the responses behind the state, each with error code `0`. -/
structure Recorded (c : CloudContext) (l : Ledger) : Prop where
  received : ∀ hs, responsesBehind l.needReg c.cur = some hs → l.received = hs.map (·, some 0)
  exchange : c.cur = .psk ∨ c.cur = .pskWaitResp → c.register = l.needReg
  registering : c.cur = .register ∨ c.cur = .registerWaitResp → l.needReg = true

variable {c : CloudContext} {l : Ledger}

theorem Recorded.of_outside (h : ∀ needReg, responsesBehind needReg c.cur = none) : Recorded c l := by
  refine ⟨?_, ?_, ?_⟩
  · intro hs hsome
    rw [h l.needReg] at hsome
    cases hsome
  · rintro (hcur | hcur)
    · rw [hcur] at h
      cases h true
    · rw [hcur] at h
      cases h true
  · rintro (hcur | hcur)
    · rw [hcur] at h
      cases h true
    · rw [hcur] at h
      cases h true

theorem Recorded.settles {c' : CloudContext} (h : Recorded c l) (hs : Settles c c') : Recorded c' l := by
  rcases hs.cur with hcur | hcur | hcur
  · refine ⟨?_, ?_, ?_⟩
    · rw [hcur]
      exact h.received
    · rw [hcur, hs.register]
      exact h.exchange
    · rw [hcur]
      exact h.registering
  · exact .of_outside fun _ => by rw [hcur]; rfl
  · exact .of_outside fun _ => by rw [hcur]; rfl

/-! ## Responses -/

variable {J K}

variable {h : CloudHandler}

theorem accepted_code {payload : List UInt8} {e : CloudEvent}
    (haccepted : Accepted J h (.resp payload) c) (hhonest : HonestCode J c e)
    (hanswered : answered c e = some (h, payload)) : writtenErrcode J payload = some 0 := by
  obtain ⟨-, payload', code, hpayload, hcode, hzero⟩ := haccepted
  cases hpayload
  rw [carriedErrcode_eq] at hcode
  obtain ⟨written, hwritten, rfl⟩ := Option.map_eq_some_iff.mp hcode
  rcases hhonest (h, payload) hanswered written hwritten with rfl | ⟨hdvd, hauth⟩
  · exact hwritten
  · exact absurd (Int.dvd_of_bmod_eq_zero (hzero hauth)) hdvd

variable {s : FsmState}

theorem Recorded.of_later {hs : List CloudHandler} (hcur : c.cur = s)
    (hlater : s = .login ∨ s = .devInfoSync ∨ s = .authCode ∨ s = .online)
    (hbehind : responsesBehind l.needReg s = some hs) (hreceived : l.received = hs.map (·, some 0)) :
    Recorded c l := by
  subst hcur
  refine ⟨?_, ?_, ?_⟩
  · intro hs' hs'eq
    rw [hbehind] at hs'eq
    cases hs'eq
    exact hreceived
  · rintro (hcur | hcur)
    · simp [hcur] at hlater
    · simp [hcur] at hlater
  · rintro (hcur | hcur)
    · simp [hcur] at hlater
    · simp [hcur] at hlater

theorem Recorded.advance {c' : CloudContext} (hr : Recorded c l)
    (hwait : h.waitState = some c.cur) (hnext : c'.cur = h.next c) :
    Recorded c' { l with received := (h, some 0) :: l.received } := by
  have hreceived := hr.received
  cases h with
  | pskReg =>
    obtain hcur : FsmState.pskWaitResp = c.cur := Option.some.inj hwait
    rw [← hcur] at hreceived
    have hneed := hr.exchange (.inr hcur.symm)
    rw [CloudHandler.next] at hnext
    cases hreg : c.register with
    | true =>
      rw [hreg, if_pos rfl] at hnext
      refine ⟨?_, ?_, fun _ => hneed.symm.trans hreg⟩
      · rw [hnext]
        rintro hs ⟨⟩
        rw [hreceived [] rfl]
        rfl
      · rw [hnext]
        exact nofun
    | false =>
      rw [hreg, if_neg Bool.false_ne_true] at hnext
      refine .of_later hnext (.inl rfl) rfl ?_
      rw [hreceived [] rfl, ← hneed, hreg]
      rfl
  | registerReg =>
    obtain hcur : FsmState.registerWaitResp = c.cur := Option.some.inj hwait
    rw [← hcur] at hreceived
    refine .of_later hnext (.inl rfl) rfl ?_
    rw [hreceived _ rfl, hr.registering (.inr hcur.symm)]
    rfl
  | login =>
    obtain hcur : FsmState.loginWaitResp = c.cur := Option.some.inj hwait
    rw [← hcur] at hreceived
    rw [CloudHandler.next] at hnext
    split_ifs at hnext
    · exact .of_outside fun _ => by rw [hnext]; rfl
    · refine .of_later hnext (.inr (.inl rfl)) rfl ?_
      rw [hreceived _ rfl]
      rfl
  | devInfoSync =>
    obtain hcur : FsmState.devInfoSyncWaitResp = c.cur := Option.some.inj hwait
    rw [← hcur] at hreceived
    refine .of_later hnext (.inr (.inr (.inl rfl))) rfl ?_
    rw [hreceived _ rfl]
    rfl
  | authCodeReg =>
    obtain hcur : FsmState.authCodeWaitResp = c.cur := Option.some.inj hwait
    rw [← hcur] at hreceived
    refine .of_later hnext (.inr (.inr (.inr rfl))) rfl ?_
    rw [hreceived _ rfl]
    rfl
  | revoke => cases hwait
  | heartbeat => cases hwait
  | tokenRefresh => cases hwait
  | devId =>
    obtain hcur : FsmState.getAuthCodeWaitResp = c.cur := Option.some.inj hwait
    exact .of_outside fun _ => by rw [hnext]; exact congrArg _ hcur.symm
  | ecoDevInfo => exact .of_outside fun _ => by rw [hnext]; rfl
  | ecoDevState =>
    obtain hcur : FsmState.ecoStateSyncWaitResp = c.cur := Option.some.inj hwait
    exact .of_outside fun _ => by rw [hnext]; exact congrArg _ hcur.symm

theorem responsesBehind_of_mayStay (hwait : h.waitState = some s)
    (hstay : h.mayStay = true) (needReg : Bool) : responsesBehind needReg s = none := by
  cases h with
  | devId =>
    cases hwait
    rfl
  | ecoDevInfo =>
    cases hwait
    rfl
  | ecoDevState =>
    cases hwait
    rfl
  | _ => cases hstay

theorem recvHandled_recorded {env : RecvEnv} {pkt : Coap.CoapPacket} {payload : List UInt8}
    (hlink : c.link = true) (hhonest : HonestCode J c (.response env pkt payload)) (hr : Recorded c l) :
    Recorded (recvHandled J K env pkt payload c) (ledgerStep J c l (.response env pkt payload)) := by
  have hledger : ledgerStep J c l (.response env pkt payload) =
      match answered c (.response env pkt payload) with
      | none => l
      | some (h, payload) => { l with received := (h, writtenErrcode J payload) :: l.received } := rfl
  rw [hledger]
  unfold recvHandled
  cases hresp : (getRespHandler env.lock c.endpoint.client pkt).1 with
  | none =>
    have hanswered : answered c (.response env pkt payload) = none := by simp [answered, hlink, hresp]
    rw [hanswered]
    exact hr.settles ⟨rfl, .inl rfl⟩
  | some h =>
    dsimp only
    by_cases hwait : h.fn.waitState = some c.cur
    · have hanswered : answered c (.response env pkt payload) = some (h.fn, payload) := by
        simp [answered, hlink, hresp, hwait]
      rw [hanswered]
      dsimp only
      rcases (respHandler_replied (J := J) (K := K) env.response h.fn (.resp payload)
          { c with endpoint := handleResp env.lock pkt c.endpoint }).cur with
        ⟨hcur, hstay⟩ | hcur | hcur | hcur | ⟨haccepted, hcur⟩
      · exact .of_outside fun needReg => by rw [hcur]; exact responsesBehind_of_mayStay hwait (hstay hwait) needReg
      · exact .of_outside fun _ => by rw [hcur]; rfl
      · exact .of_outside fun _ => by rw [hcur]; rfl
      · exact .of_outside fun _ => by rw [hcur]; rfl
      · have haccepted' : Accepted J h.fn (.resp payload) c := ⟨haccepted.waits, haccepted.errcode⟩
        rw [accepted_code haccepted' hhonest hanswered]
        exact hr.advance hwait hcur
    · have hanswered : answered c (.response env pkt payload) = none := by simp [answered, hlink, hresp, hwait]
      have hsettles : Settles { c with endpoint := handleResp env.lock pkt c.endpoint }
          (respHandler J K env.response h.fn (.resp payload)
            { c with endpoint := handleResp env.lock pkt c.endpoint }) := respHandler_settles hwait
      rw [hanswered]
      exact hr.settles ⟨hsettles.register, hsettles.cur⟩

/-! ## The other steps -/

theorem cloudFsmInitHandler_next (env : InitEnv) (c : CloudContext) :
    (cloudFsmInitHandler env c).1 = .init ∨ (cloudFsmInitHandler env c).1 = .createLink := by
  unfold cloudFsmInitHandler
  dsimp only
  by_cases hbound : env.bindStatus = .bind ∨ env.bindStatus = .revoke
  · rw [if_pos hbound]
    split
    · exact .inl rfl
    · exact .inr rfl
  · rw [if_neg hbound]
    split
    · exact .inl rfl
    · split_ifs
      · exact .inr rfl
      · exact .inl rfl
      · exact .inr rfl

theorem cloudFsmCreateLinkHandler_next (env : CreateEnv) (c : CloudContext) :
    (cloudFsmCreateLinkHandler env c).1 = .createLink ∨ (cloudFsmCreateLinkHandler env c).1 = .connect := by
  unfold cloudFsmCreateLinkHandler
  dsimp only
  split_ifs
  · exact .inl rfl
  · exact .inr rfl

theorem cloudFsmConnectHandler_next (env : ConnectEnv) (c : CloudContext) :
    (cloudFsmConnectHandler env c).1 = .connect ∨ (cloudFsmConnectHandler env c).1 = .psk := by
  unfold cloudFsmConnectHandler
  dsimp only
  split_ifs
  · exact .inl rfl
  · exact .inl rfl
  · exact .inr rfl
  · exact .inr rfl

theorem cloudFsmConnectHandler_register (env : ConnectEnv) (c : CloudContext) :
    (cloudFsmConnectHandler env c).2.register = c.register := by
  obtain ⟨link, info, heq | ⟨-, -, heq⟩⟩ := cloudFsmConnectHandler_context env c
  · rw [heq]
  · rw [heq]
    rfl

theorem FsmState.request_behind {wait : FsmState} (hreq : s.request = some (h, wait)) :
    (∀ needReg, responsesBehind needReg wait = responsesBehind needReg s) ∧
      (wait = .psk ∨ wait = .pskWaitResp → s = .psk) ∧ (wait = .register ∨ wait = .registerWaitResp → s = .register) := by
  cases s with
  | psk =>
    cases hreq
    exact ⟨fun _ => rfl, fun _ => rfl, nofun⟩
  | register =>
    cases hreq
    exact ⟨fun _ => rfl, nofun, fun _ => rfl⟩
  | _ => cases hreq <;> exact ⟨fun _ => rfl, nofun, nofun⟩

theorem requestHandler_recorded {wait : FsmState} (env : RequestEnv)
    (hreq : c.cur.request = some (h, wait)) (hr : Recorded c l) :
    Recorded { (requestHandler J K h wait env c.beforeRequest).2 with
      cur := (requestHandler J K h wait env c.beforeRequest).1 } l := by
  obtain ⟨hbehind, hexchange, hregistering⟩ := FsmState.request_behind hreq
  have hsettles := m2mCloudSendRequest_settles (J := J) (K := K) env h c.beforeRequest
  by_cases hret : (m2mCloudSendRequest J K env h c.beforeRequest).1 ≠ .ok
  · have hnext : (requestHandler J K h wait env c.beforeRequest).1 = .connect := if_pos hret
    rw [hnext]
    exact .of_outside fun _ => rfl
  · have hnext : (requestHandler J K h wait env c.beforeRequest).1 = wait := if_neg hret
    rw [hnext]
    refine ⟨?_, ?_, ?_⟩
    · intro hs hs'
      exact hr.received hs ((hbehind l.needReg).symm.trans hs')
    · intro hwait
      rw [← hr.exchange (.inl (hexchange hwait)), ← c.beforeRequest_settles.1.register]
      exact hsettles.register
    · intro hwait
      exact hr.registering (.inl (hregistering hwait))

theorem utilsFsmRunning_recorded (env : FsmEnv) (hr : Recorded c l) :
    Recorded (utilsFsmRunning J K env c) (ledgerStep J c l (.fsmTimer env)) := by
  by_cases hconnect : c.cur = .connect
  · unfold utilsFsmRunning
    rw [fsmHandler_connect hconnect]
    rcases cloudFsmConnectHandler_next env.connect c with hnext | hnext
    · dsimp only
      rw [hnext]
      exact .of_outside fun _ => rfl
    · have hledger : ledgerStep J c l (.fsmTimer env) = ⟨c.register, []⟩ := by
        simp [ledgerStep, connects, hconnect, hnext]
      dsimp only
      rw [hledger, hnext]
      refine ⟨?_, fun _ => cloudFsmConnectHandler_register env.connect c, nofun⟩
      rintro hs ⟨⟩
      rfl
  · have hledger : ledgerStep J c l (.fsmTimer env) = l := by simp [ledgerStep, connects, answered, hconnect]
    rw [hledger]
    unfold utilsFsmRunning
    cases hreq : c.cur.request with
    | some r =>
      rw [fsmHandler_request hreq]
      exact requestHandler_recorded env.request hreq hr
    | none =>
      by_cases hinit : c.cur = .init
      · rw [fsmHandler_init hinit]
        rcases cloudFsmInitHandler_next env.init c with hnext | hnext
        · exact .of_outside fun _ => by dsimp only; rw [hnext]; rfl
        · exact .of_outside fun _ => by dsimp only; rw [hnext]; rfl
      by_cases hcreate : c.cur = .createLink
      · rw [fsmHandler_createLink hcreate]
        rcases cloudFsmCreateLinkHandler_next env.create c with hnext | hnext
        · exact .of_outside fun _ => by dsimp only; rw [hnext]; rfl
        · exact .of_outside fun _ => by dsimp only; rw [hnext]; rfl
      rw [fsmHandler_stays hreq hinit hcreate hconnect]
      exact hr

theorem handledContext_recorded {e : CloudEvent} (hhonest : HonestCode J c e)
    (hr : Recorded c l) : Recorded (handledContext J K c e) (ledgerStep J c l e) := by
  cases e with
  | fsmTimer env => exact utilsFsmRunning_recorded env hr
  | response env pkt payload =>
    unfold handledContext
    dsimp only
    split_ifs with hlink
    · exact recvHandled_recorded hlink hhonest hr
    · have hledger : ledgerStep J c l (.response env pkt payload) = l := by
        simp [ledgerStep, connects, answered, hlink]
      rw [hledger]
      exact hr
  | timeoutCheck env sweep =>
    unfold handledContext cloudStep
    dsimp only
    split_ifs
    · exact hr.settles (timeoutCheck_settles env sweep c).1
    · exact hr
  | linkError =>
    unfold handledContext cloudStep
    dsimp only
    split_ifs
    · exact hr.settles ⟨rfl, .inr (.inl rfl)⟩
    · exact hr
  | heartbeatTimer env =>
    unfold handledContext cloudStep
    dsimp only
    split_ifs
    · exact hr.settles (m2mCloudSendRequest_settles env .heartbeat c)
    · exact hr
  | tokenTimer env now =>
    unfold handledContext cloudStep
    dsimp only
    split_ifs
    · have hsettles := m2mCloudSendRequest_settles (J := J) (K := K) env .tokenRefresh c
      unfold tokenTimerCallback
      dsimp only
      split_ifs
      · exact hr.settles hsettles
      · exact hr.settles ⟨hsettles.register, hsettles.cur⟩
    · exact hr
  | registerTimeout =>
    unfold handledContext cloudStep
    dsimp only
    split_ifs
    · exact .of_outside fun _ => rfl
    · exact hr
  | sleSetup accepted =>
    unfold handledContext cloudStep
    dsimp only
    split_ifs
    · exact .of_outside fun _ => rfl
    · exact hr
  | sleDevInfo accepted =>
    unfold handledContext cloudStep
    dsimp only
    split_ifs
    · exact .of_outside fun _ => rfl
    · exact hr
  | restart => exact .of_outside fun _ => rfl

theorem cloudStep_settles (c : CloudContext) (e : CloudEvent) :
    Settles (handledContext J K c e) (cloudStep J K c e) := by
  cases e with
  | response env pkt payload =>
    unfold handledContext cloudStep
    dsimp only
    split_ifs
    · exact (timeoutCheck_settles env.response env.sweep _).1
    · exact ⟨rfl, .inl rfl⟩
  | _ => exact ⟨rfl, .inl rfl⟩

theorem recordedStep_recorded (s : CloudContext × Ledger) (e : CloudEvent) (hhonest : HonestCode J s.1 e)
    (hr : Recorded s.1 s.2) : Recorded (recordedStep J K s e).1 (recordedStep J K s e).2 :=
  (handledContext_recorded hhonest hr).settles (cloudStep_settles s.1 e)

/-! ## Going online -/

theorem movesOnline_complete {es : List CloudEvent} {e : CloudEvent}
    (hhonest : Along (recordedStep J K) (fun s e => HonestCode J s.1 e) recordedStart (es ++ [e]))
    (hmoves : MovesOnline J K (run (recordedStep J K) recordedStart es).1 e) :
    (run (recordedStep J K) recordedStart (es ++ [e])).2.Complete := by
  rw [along_append] at hhonest
  have hr : (fun s : CloudContext × Ledger => Recorded s.1 s.2) (run (recordedStep J K) recordedStart es) :=
    run_invariant recordedStep_recorded hhonest.1 (.of_outside fun _ => rfl)
  rw [run_append]
  exact (handledContext_recorded hhonest.2.1 hr).received _ (by rw [hmoves.2]; rfl)

/-! ## Sample runs -/

def sampleObject (members : List (String × Json.Value)) : Json.Value :=
  .obj (members.map fun m => (Bytes.ascii m.1, m.2))

/-- The texts of the samples, byte by byte, and what a parser makes of them. -/
def sampleTexts : List (List UInt8 × Json.Value) :=
  [ -- `{"errcode":0}`
   (
    [123, 34, 101, 114, 114, 99, 111, 100, 101, 34, 58, 48, 125],
    sampleObject [("errcode", .num 0)]),
   -- `{"errcode":1}`
   (
    [123, 34, 101, 114, 114, 99, 111, 100, 101, 34, 58, 49, 125],
    sampleObject [("errcode", .num 1)]),
   -- `{"errcode":0,"sn2":"0102030405060708","encryptMode":"aes"}`
   (
    [123, 34, 101, 114, 114, 99, 111, 100, 101, 34, 58, 48, 44, 34, 115, 110, 50, 34, 58, 34, 48, 49, 48, 50,
      48, 51, 48, 52, 48, 53, 48, 54, 48, 55, 48, 56, 34, 44, 34, 101, 110, 99, 114, 121, 112, 116, 77, 111,
      100, 101, 34, 58, 34, 97, 101, 115, 34, 125],
    sampleObject [("errcode", .num 0), ("sn2", .str (Bytes.ascii "0102030405060708")),
      ("encryptMode", .str (Bytes.ascii "aes"))]),
   -- `{"errcode":0,"accessToken":"a","refreshToken":"r","timeout":3600}`
   (
    [123, 34, 101, 114, 114, 99, 111, 100, 101, 34, 58, 48, 44, 34, 97, 99, 99, 101, 115, 115, 84, 111, 107,
      101, 110, 34, 58, 34, 97, 34, 44, 34, 114, 101, 102, 114, 101, 115, 104, 84, 111, 107, 101, 110, 34, 58,
      34, 114, 34, 44, 34, 116, 105, 109, 101, 111, 117, 116, 34, 58, 51, 54, 48, 48, 125],
    sampleObject [("errcode", .num 0), ("accessToken", .str (Bytes.ascii "a")),
      ("refreshToken", .str (Bytes.ascii "r")), ("timeout", .num 3600)]),
   -- `{"errcode":0,"authCode":"01","authCodeId":"02","timeout":60}`
   (
    [123, 34, 101, 114, 114, 99, 111, 100, 101, 34, 58, 48, 44, 34, 97, 117, 116, 104, 67, 111, 100, 101, 34,
      58, 34, 48, 49, 34, 44, 34, 97, 117, 116, 104, 67, 111, 100, 101, 73, 100, 34, 58, 34, 48, 50, 34, 44,
      34, 116, 105, 109, 101, 111, 117, 116, 34, 58, 54, 48, 125],
    sampleObject [("errcode", .num 0), ("authCode", .str (Bytes.ascii "01")),
      ("authCodeId", .str (Bytes.ascii "02")), ("timeout", .num 60)])]

def sampleText (i : ℕ) : List UInt8 := (sampleTexts[i]?.map Prod.fst).getD []

def sampleJson : JsonAdapter := .ofParser fun text => (sampleTexts.find? fun m => m.1 = text).map Prod.snd

def sampleKdf (password salt : List UInt8) : List UInt8 := password ++ salt

def sampleResponseEnv : ResponseEnv where
  token := ⟨0, 0, 0, .ok 1, fun _ => 0, fun _ => .ok, .ok, .ok⟩
  recvLoginInfo := .ok
  loginInfo := none
  kdfOk := true
  keyLeft := []
  hbTimerAdd := true
  endDevice := .ok
  heartbeatTime := .ok
  sleSetup := .ok
  sleDevInfo := .ok

def samplePacket (t : UInt8) : Coap.CoapPacket :=
  { Coap.CoapPacket.init with header := { Coap.CoapPacket.init.header with tkl := 2 }, token := fun _ => t }

def sampleRequestEnv (t : UInt8) (now : UInt32) : RequestEnv where
  options := true
  jsonCreate := true
  jsonAdd := true
  sn1 := List.replicate 8 t
  outcome := .sent (samplePacket t)
  response := sampleResponseEnv
  sweep := ⟨now, fun _ => true⟩
  insert := ⟨true, true, now⟩

/-- A turn of the state machine of a device that was bound; a request it sends has the token `t`. -/
def sampleTurn (t : UInt8) (now : UInt32) : CloudEvent :=
  .fsmTimer
    { init := ⟨.bind, some ⟨[1], [2]⟩, none, .ok, true⟩
      create := ⟨0, .ok, .ok, .ok⟩
      connect := ⟨true, now, now, 0, .ok, false⟩
      request := sampleRequestEnv t now }

def sampleAnswer (t : UInt8) (now : UInt32) (text : ℕ) : CloudEvent :=
  .response ⟨true, sampleResponseEnv, ⟨now, fun _ => true⟩⟩ (samplePacket t) (sampleText text)

def sampleLogin : List CloudEvent :=
  [sampleTurn 0 1, sampleTurn 0 2, sampleTurn 0 3, sampleTurn 1 4, sampleAnswer 1 5 2, sampleTurn 2 6,
    sampleAnswer 2 7 3, sampleTurn 3 8, sampleAnswer 3 9 0, sampleTurn 4 10]

theorem movesOnline_complete_login :
    Along (recordedStep sampleJson sampleKdf) (fun s e => HonestCode sampleJson s.1 e) recordedStart
        (sampleLogin ++ [sampleAnswer 4 11 4]) ∧
      MovesOnline sampleJson sampleKdf (run (recordedStep sampleJson sampleKdf) recordedStart sampleLogin).1
        (sampleAnswer 4 11 4) ∧
      (run (recordedStep sampleJson sampleKdf) recordedStart (sampleLogin ++ [sampleAnswer 4 11 4])).2.Complete := by
  have hhonest : Along (recordedStep sampleJson sampleKdf) (fun s e => HonestCode sampleJson s.1 e) recordedStart
      (sampleLogin ++ [sampleAnswer 4 11 4]) := by decide
  have hmoves : MovesOnline sampleJson sampleKdf (run (recordedStep sampleJson sampleKdf) recordedStart sampleLogin).1
      (sampleAnswer 4 11 4) := by decide
  exact ⟨hhonest, hmoves, movesOnline_complete hhonest hmoves⟩

/-- Error code `1` in place of the authentication code, and the client is online. -/
theorem movesOnline_refused : ∃ es e,
    MovesOnline sampleJson sampleKdf (run (recordedStep sampleJson sampleKdf) recordedStart es).1 e ∧
      ¬ (run (recordedStep sampleJson sampleKdf) recordedStart (es ++ [e])).2.Complete :=
  ⟨sampleLogin, sampleAnswer 4 11 1, by decide, by decide⟩

end IotConnect.Cloud
