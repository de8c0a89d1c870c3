import IotConnect.Cloud.Online

/-! # The key of the connection

The exchange at the start of a connection is to give a key that both random values went into: that of the last
request on the connection and the whole of that in its response. A record of the exchange beside the client
says which these were. The code drops the results of decoding and of the derivation, takes responses to older
requests, and gives up the key of the last connection only when the next exchange starts. -/
namespace IotConnect.Cloud
open Trace Coap Endpoint
set_option autoImplicit false

variable (J : JsonAdapter) (K : (password salt : List UInt8) → List UInt8)

/-! ## The exchange -/

structure PskAnswer where
  password : List UInt8
  sn2Str : List UInt8
  /-- The derivation succeeded. -/
  derived : Bool

/-- The last request for a key on the connection, with the number it is recorded under and its random value,
and the response to it. -/
structure Exchange where
  request : Option (ℕ × List UInt8)
  answer : Option PskAnswer

/-- The value of `sn2` in a payload that is not rejected. -/
def pskOffer (payload : List UInt8) : Option (List UInt8) :=
  match respErrcode J payload with
  | .error _ => none
  | .ok (json, errcode) =>
    if errcode ≠ 0 then none
    else
      match utilsJsonGetString J json "sn2" (2 * (sessionKeyLen + 1) + 1),
          utilsJsonGetString J json "encryptMode" 130 with
      | .ok sn2Str, .ok _ => some sn2Str
      | _, _ => none

def completeSn2 (sn2Str : List UInt8) : Option (List UInt8) :=
  (utilsUnhexify sn2Str sessSnLen).filter fun sn2 => sn2.length = sessSnLen

def pskRequest (c : CloudContext) : CloudEvent → Option (ℕ × List UInt8)
  | .fsmTimer env =>
    if c.cur = .psk then (sentContext env.request .pskReg c.beforeRequest).map fun c' => (c.endpoint.serial, c'.sn1)
    else none
  | _ => none

structure PskResponse where
  owner : Option ℕ
  payload : List UInt8
  derived : Bool

def pskResponse (c : CloudContext) : CloudEvent → Option PskResponse
  | .response env pkt payload =>
    if c.link ∧ c.cur = .pskWaitResp then
      ((getRespHandler env.lock c.endpoint.client pkt).1.filter fun h => h.fn = .pskReg).map fun h =>
        ⟨h.owner, payload, env.response.kdfOk⟩
    else none
  | _ => none

def exchangeStep (c : CloudContext) (x : Exchange) (e : CloudEvent) : Exchange :=
  if connects c e then ⟨none, none⟩
  else
    match pskRequest c e with
    | some r => ⟨some r, none⟩
    | none =>
      match pskResponse c e with
      | none => x
      | some r =>
        match pskOffer J r.payload with
        | none => x
        | some sn2Str =>
          if x.request.map Prod.fst = r.owner then { x with answer := some ⟨c.psk, sn2Str, r.derived⟩ } else x

def exchangingStep (s : CloudContext × Exchange) (e : CloudEvent) : CloudContext × Exchange :=
  (cloudStep J K s.1 e, exchangeStep J s.1 s.2 e)

def exchangingStart : CloudContext × Exchange := (.start, ⟨none, none⟩)

def AgreedKey (x : Exchange) (info : PskInfo) : Prop :=
  ∃ r a sn2, x.request = some r ∧ x.answer = some a ∧ completeSn2 a.sn2Str = some sn2 ∧ a.derived = true ∧
    info.salt = r.2 ++ sn2 ∧ info.key = K a.password (r.2 ++ sn2)

/-- A key that counts as finished was agreed on on this connection, and so was the key that messages are
encoded and decoded with. -/
structure FreshKey (c : CloudContext) (x : Exchange) : Prop where
  finished : c.pskInfo.pskFinish = true → AgreedKey K x c.pskInfo
  coded : ∀ crypto, M2mCloudContext.pskActive ⟨c.pskInfo, crypto⟩ → AgreedKey K x c.pskInfo

/-- No key is left over at a connect, and the response that is taken is one to the last request with a whole
random value and a successful derivation. -/
structure SoundExchange (c : CloudContext) (x : Exchange) (e : CloudEvent) : Prop where
  connect : connects c e = true → c.pskInfo.pskFinish = false
  answer : ∀ r, pskResponse c e = some r → ∀ sn2Str, pskOffer J r.payload = some sn2Str →
    x.request.map Prod.fst = r.owner ∧ (completeSn2 sn2Str).isSome ∧ r.derived = true

variable {J K}

variable {c : CloudContext} {x : Exchange}

theorem freshKey_iff : FreshKey K c x ↔ (c.pskInfo.pskFinish = true → AgreedKey K x c.pskInfo) :=
  ⟨FreshKey.finished, fun h => ⟨h, fun _ hactive => h hactive.1⟩⟩

/-! ## Decoding -/

theorem unhexWritten_of_unhexPairs {s l : List UInt8} (h : unhexPairs s = some l) : unhexWritten s = l := by
  induction s using unhexPairs.induct generalizing l with
  | case1 a b s ih =>
    rw [unhexPairs] at h
    simp only [Option.bind_eq_bind, Option.bind_eq_some_iff, Option.pure_def, Option.some.injEq] at h
    obtain ⟨high, hhigh, low, hlow, rest, hrest, rfl⟩ := h
    rw [unhexWritten, hhigh, hlow, ih hrest]
  | case2 s hs =>
    rcases s with _ | ⟨a, _ | ⟨b, s⟩⟩
    · cases h
      rfl
    · cases h
      rfl
    · exact absurd rfl (hs a b s)

variable {sn2Str : List UInt8}

theorem unhexifyInto_complete {sn2 out : List UInt8} (h : completeSn2 sn2Str = some sn2)
    (hout : out.length = sessSnLen) : unhexifyInto sn2Str out = sn2 := by
  obtain ⟨hdecoded, hlength⟩ := Option.filter_eq_some_iff.mp h
  have hlength' : sn2.length = out.length := (of_decide_eq_true hlength).trans hout.symm
  unfold utilsUnhexify at hdecoded
  rw [← hout] at hdecoded
  split_ifs at hdecoded with hnone hodd hlong
  rw [unhexifyInto, if_neg, unhexWritten_of_unhexPairs hdecoded, List.drop_eq_nil_of_le (Nat.le_of_eq hlength'.symm),
    List.append_nil]
  tauto

/-! ## The response -/

variable {payload : List UInt8}

theorem m2mCloudParsePskResponse_of_none (env : ResponseEnv) (c : CloudContext)
    (h : pskOffer J payload = none) : (m2mCloudParsePskResponse J K env c payload).1 ≠ .ok ∧
      (m2mCloudParsePskResponse J K env c payload).2 = c := by
  unfold pskOffer at h
  unfold m2mCloudParsePskResponse
  cases hcode : respErrcode J payload with
  | error ret => exact ⟨ret.property, rfl⟩
  | ok r =>
    obtain ⟨json, errcode⟩ := r
    simp only [hcode] at h
    dsimp only
    by_cases hzero : errcode ≠ 0
    · rw [if_pos hzero]
      exact ⟨nofun, rfl⟩
    rw [if_neg hzero] at h ⊢
    cases hsn2 : utilsJsonGetString J json "sn2" (2 * (sessionKeyLen + 1) + 1) with
    | error ret => exact ⟨ret.property, rfl⟩
    | ok sn2Str =>
      cases hmode : utilsJsonGetString J json "encryptMode" 130 with
      | error ret => exact ⟨ret.property, rfl⟩
      | ok mode => simp [hsn2, hmode] at h

theorem m2mCloudParsePskResponse_of_offer (env : ResponseEnv) (c : CloudContext)
    (h : pskOffer J payload = some sn2Str) : ∃ encrypt, m2mCloudParsePskResponse J K env c payload =
      (.ok, (stationSessKeyGen K env { c with
        pskInfo := { c.pskInfo with encrypt := encrypt }, sn2 := unhexifyInto sn2Str c.sn2 }).2) := by
  unfold pskOffer at h
  unfold m2mCloudParsePskResponse
  cases hcode : respErrcode J payload with
  | error ret =>
    rw [hcode] at h
    cases h
  | ok r =>
    obtain ⟨json, errcode⟩ := r
    simp only [hcode] at h
    dsimp only
    split_ifs at h with hzero
    rw [if_neg hzero]
    cases hsn2 : utilsJsonGetString J json "sn2" (2 * (sessionKeyLen + 1) + 1) with
    | error ret => simp [hsn2] at h
    | ok sn2Str' =>
      cases hmode : utilsJsonGetString J json "encryptMode" 130 with
      | error ret => simp [hsn2, hmode] at h
      | ok mode =>
        simp only [hsn2, hmode, Option.some.injEq] at h
        subst h
        exact ⟨_, rfl⟩

/-- What a response to a request for a key leaves in the context. -/
structure KeyTaken (K : (password salt : List UInt8) → List UInt8) (env : ResponseEnv) (sn2Str : List UInt8)
    (c c' : CloudContext) : Prop where
  finished : c'.pskInfo.pskFinish = true
  sn2 : c'.sn2.length = c.sn2.length
  salt : c'.pskInfo.salt = c.sn1 ++ unhexifyInto sn2Str c.sn2
  key : env.kdfOk = true → c'.pskInfo.key = K c.psk (c.sn1 ++ unhexifyInto sn2Str c.sn2)
  cur : c'.cur ≠ .pskWaitResp

theorem stationSessKeyGen_taken (env : ResponseEnv) (c : CloudContext) :
    (stationSessKeyGen K env c).2.pskInfo.salt = c.sn1 ++ c.sn2 ∧ (stationSessKeyGen K env c).2.sn2 = c.sn2 ∧
      (env.kdfOk = true → (stationSessKeyGen K env c).2.pskInfo.key = K c.psk (c.sn1 ++ c.sn2)) := by
  unfold stationSessKeyGen
  dsimp only
  split_ifs with hfail
  · refine ⟨rfl, rfl, ?_⟩
    intro hok
    rw [hfail] at hok
    cases hok
  · exact ⟨rfl, rfl, fun _ => rfl⟩

variable {env : ResponseEnv}

theorem m2mCloudPskRegRespHandler_taken (hwait : c.cur = .pskWaitResp) (h : pskOffer J payload = some sn2Str) :
    KeyTaken K env sn2Str c (m2mCloudPskRegRespHandler J K env (.resp payload) c) := by
  obtain ⟨encrypt, hparse⟩ := m2mCloudParsePskResponse_of_offer (K := K) env c h
  obtain ⟨hsalt, hsn2, hkey⟩ := stationSessKeyGen_taken (K := K) env { c with
    pskInfo := { c.pskInfo with encrypt := encrypt }, sn2 := unhexifyInto sn2Str c.sn2 }
  unfold m2mCloudPskRegRespHandler guarded
  rw [if_neg (by rw [hwait]; exact not_not.mpr rfl)]
  dsimp only
  rw [hparse, if_neg (not_not.mpr rfl)]
  refine ⟨rfl, ?_, hsalt, hkey, ?_⟩
  · exact (congrArg List.length hsn2).trans (unhexifyInto_length sn2Str c.sn2)
  · show (if _ then FsmState.register else FsmState.login) ≠ .pskWaitResp
    split_ifs <;> decide

theorem m2mCloudPskRegRespHandler_refused (hwait : c.cur = .pskWaitResp) (h : pskOffer J payload = none) :
    m2mCloudPskRegRespHandler J K env (.resp payload) c = c.changeFsmTo .connect := by
  obtain ⟨hret, hctx⟩ := m2mCloudParsePskResponse_of_none (K := K) env c h
  unfold m2mCloudPskRegRespHandler guarded
  rw [if_neg (by rw [hwait]; exact not_not.mpr rfl)]
  dsimp only
  rw [if_pos hret, hctx]

/-! ## Steps -/

/-- While a response is awaited, the record has the request whose random value the context has. -/
structure Exchanging (c : CloudContext) (x : Exchange) : Prop where
  sn2 : c.sn2.length = sessSnLen
  waiting : c.cur = .pskWaitResp → ∃ r, x.request = some r ∧ r.2 = c.sn1 ∧ x.answer = none

/-- The step to `c'` keeps the record, and it keeps the key fresh exactly when it is sound. -/
structure StepKept (J : JsonAdapter) (K : (password salt : List UInt8) → List UInt8) (c : CloudContext) (x : Exchange)
    (e : CloudEvent) (c' : CloudContext) : Prop where
  exchanging : Exchanging c' (exchangeStep J c x e)
  fresh : FreshKey K c x → (FreshKey K c' (exchangeStep J c x e) ↔ SoundExchange J c x e)

variable {c' : CloudContext}

theorem StepKept.idle {e : CloudEvent} (hconnect : connects c e = false)
    (hrequest : pskRequest c e = none) (hresponse : ∀ r, pskResponse c e = some r → pskOffer J r.payload = none)
    (hkey : SameKey c c') (hcur : c'.cur = .pskWaitResp → c.cur = .pskWaitResp) (hx : Exchanging c x) : StepKept J K c x e c' := by
  have hstep : exchangeStep J c x e = x := by
    cases hr : pskResponse c e with
    | none => simp [exchangeStep, hconnect, hrequest, hr]
    | some r => simp [exchangeStep, hconnect, hrequest, hr, hresponse r hr]
  refine ⟨?_, ?_⟩
  · rw [hstep]
    refine ⟨hkey.sn2 ▸ hx.sn2, ?_⟩
    intro hwait
    obtain ⟨r, hr, hsn1, hanswer⟩ := hx.waiting (hcur hwait)
    exact ⟨r, hr, hsn1.trans hkey.sn1.symm, hanswer⟩
  · intro hfresh
    rw [hstep]
    refine iff_of_true ?_ ⟨?_, ?_⟩
    · rw [freshKey_iff] at hfresh ⊢
      rw [hkey.pskInfo]
      exact hfresh
    · intro htrue
      rw [hconnect] at htrue
      cases htrue
    · intro r hr sn2Str hoffer
      rw [hresponse r hr] at hoffer
      cases hoffer

theorem StepKept.silent {e : CloudEvent} (hconnect : connects c e = false) (hrequest : pskRequest c e = none)
    (hresponse : pskResponse c e = none) (hkey : SameKey c c')
    (hcur : c'.cur = .pskWaitResp → c.cur = .pskWaitResp) (hx : Exchanging c x) : StepKept J K c x e c' := by
  refine .idle hconnect hrequest ?_ hkey hcur hx
  intro r hr
  rw [hresponse] at hr
  cases hr

theorem Settles.waiting (h : Settles c c') (hcur : c'.cur = .pskWaitResp) : c.cur = .pskWaitResp := by
  rcases h.cur with heq | heq | heq
  · exact heq.symm.trans hcur
  · rw [heq] at hcur
    cases hcur
  · rw [heq] at hcur
    cases hcur

theorem connect_kept {env : FsmEnv} (hconnect : connects c (.fsmTimer env) = true)
    (hkey : SameKey c c') (hcur : c'.cur = .psk) (hx : Exchanging c x) : StepKept J K c x (.fsmTimer env) c' := by
  have hstep : exchangeStep J c x (.fsmTimer env) = ⟨none, none⟩ := by simp [exchangeStep, hconnect]
  refine ⟨?_, ?_⟩
  · rw [hstep]
    refine ⟨hkey.sn2 ▸ hx.sn2, ?_⟩
    intro hwait
    rw [hcur] at hwait
    cases hwait
  · intro hfresh
    rw [hstep, freshKey_iff, hkey.pskInfo]
    constructor
    · intro hagreed
      refine ⟨fun _ => ?_, nofun⟩
      by_contra hfinish
      obtain ⟨r, a, sn2, hnone, -⟩ := hagreed (by simpa using hfinish)
      cases hnone
    · intro hsound hfinish
      rw [hsound.connect hconnect] at hfinish
      cases hfinish

theorem psk_kept {env : FsmEnv} (hpsk : c.cur = .psk) (hx : Exchanging c x) :
    StepKept J K c x (.fsmTimer env) (utilsFsmRunning J K env c) := by
  have hbefore : c.beforeRequest = { c with pskInfo := { c.pskInfo with pskFinish := false } } := if_pos hpsk
  have hreq : c.cur.request = some (.pskReg, .pskWaitResp) := by rw [hpsk]; rfl
  have hkept := m2mCloudSendRequest_keyKept (J := J) (K := K) env.request .pskReg c.beforeRequest
  have hconnect : connects c (.fsmTimer env) = false := by simp [connects, hpsk]
  have hrun : utilsFsmRunning J K env c =
      { (m2mCloudSendRequest J K env.request .pskReg c.beforeRequest).2 with
        cur := (requestHandler J K .pskReg .pskWaitResp env.request c.beforeRequest).1 } := by
    unfold utilsFsmRunning
    rw [fsmHandler_request hreq]
    rfl
  have hfinish : (utilsFsmRunning J K env c).pskInfo.pskFinish = false := by
    rw [hrun]
    show (m2mCloudSendRequest J K env.request .pskReg c.beforeRequest).2.pskInfo.pskFinish = false
    rw [hkept.pskInfo, hbefore]
  have hsn2 : (utilsFsmRunning J K env c).sn2 = c.sn2 := by
    rw [hrun]
    show (m2mCloudSendRequest J K env.request .pskReg c.beforeRequest).2.sn2 = c.sn2
    rw [hkept.sn2, hbefore]
  refine ⟨⟨hsn2 ▸ hx.sn2, ?_⟩, ?_⟩
  · intro hwait
    cases hsent : sentContext env.request .pskReg c.beforeRequest with
    | none =>
      have hret := (m2mCloudSendRequest_of_unsent (J := J) (K := K) hsent).1
      have hnext : (utilsFsmRunning J K env c).cur = .connect := by
        rw [hrun]
        exact if_pos hret
      rw [hnext] at hwait
      cases hwait
    | some c' =>
      have hstep : exchangeStep J c x (.fsmTimer env) = ⟨some (c.endpoint.serial, c'.sn1), none⟩ := by
        simp [exchangeStep, hconnect, pskRequest, hpsk, hsent]
      rw [hstep]
      refine ⟨_, rfl, ?_, rfl⟩
      rw [hrun]
      exact (m2mCloudSendRequest_sn1 hsent).symm
  · intro hfresh
    refine iff_of_true ?_ ⟨?_, ?_⟩
    · rw [freshKey_iff, hfinish]
      intro htrue
      cases htrue
    · intro htrue
      rw [hconnect] at htrue
      cases htrue
    · intro r hr
      cases hr

theorem utilsFsmRunning_kept (env : FsmEnv) (hx : Exchanging c x) :
    StepKept J K c x (.fsmTimer env) (utilsFsmRunning J K env c) := by
  by_cases hpsk : c.cur = .psk
  · exact psk_kept hpsk hx
  have hrequest : pskRequest c (.fsmTimer env) = none := if_neg hpsk
  by_cases hconnect : c.cur = .connect
  · have hkey : SameKey c (utilsFsmRunning J K env c) := by
      unfold utilsFsmRunning
      rw [fsmHandler_connect hconnect]
      dsimp only
      obtain ⟨link, info, heq | ⟨-, -, heq⟩⟩ := cloudFsmConnectHandler_context env.connect c
      · rw [heq]
        exact ⟨rfl, rfl, rfl⟩
      · rw [heq]
        exact ⟨rfl, rfl, rfl⟩
    have hcur : (utilsFsmRunning J K env c).cur = (cloudFsmConnectHandler env.connect c).1 := by
      unfold utilsFsmRunning
      rw [fsmHandler_connect hconnect]
    rcases cloudFsmConnectHandler_next env.connect c with hnext | hnext
    · have hno : connects c (.fsmTimer env) = false := by simp [connects, hconnect, hnext]
      refine .silent hno hrequest rfl hkey ?_ hx
      intro hwait
      rw [hcur, hnext] at hwait
      cases hwait
    · have hyes : connects c (.fsmTimer env) = true := by simp [connects, hconnect, hnext]
      exact connect_kept hyes hkey (hcur.trans hnext) hx
  have hno : connects c (.fsmTimer env) = false := by simp [connects, hconnect]
  cases hreq : c.cur.request with
  | some r =>
    obtain ⟨h, wait⟩ := r
    have hh : h ≠ .pskReg ∧ wait ≠ .pskWaitResp := by
      revert hreq hpsk
      cases c.cur <;> rintro hpsk ⟨⟩ <;> first | exact absurd rfl hpsk | decide
    have hbefore : c.beforeRequest = c := if_neg hpsk
    have hkept := m2mCloudSendRequest_keyKept (J := J) (K := K) env.request h c
    unfold utilsFsmRunning
    rw [fsmHandler_request hreq, hbefore]
    refine .silent hno hrequest rfl ⟨hkept.pskInfo, hkept.sn1 hh.1, hkept.sn2⟩ ?_ hx
    intro hwait
    have hnext : (if (m2mCloudSendRequest J K env.request h c).1 ≠ .ok then FsmState.connect else wait) =
        .pskWaitResp := hwait
    split_ifs at hnext
    exact absurd hnext hh.2
  | none =>
    by_cases hinit : c.cur = .init
    · obtain ⟨register, revoke, regTimer, authInfo, heq⟩ := cloudFsmInitHandler_context env.init c
      have hnext := cloudFsmInitHandler_next env.init c
      unfold utilsFsmRunning
      rw [fsmHandler_init hinit]
      dsimp only
      rw [heq]
      refine .silent hno hrequest rfl ⟨rfl, rfl, rfl⟩ ?_ hx
      intro hwait
      rcases hnext with hnext | hnext
      · cases hnext.symm.trans hwait
      · cases hnext.symm.trans hwait
    by_cases hcreate : c.cur = .createLink
    · obtain ⟨created, endpoint, enable, info, heq⟩ := cloudFsmCreateLinkHandler_context env.create c
      have hnext := cloudFsmCreateLinkHandler_next env.create c
      unfold utilsFsmRunning
      rw [fsmHandler_createLink hcreate]
      dsimp only
      rw [heq]
      refine .silent hno hrequest rfl ⟨rfl, rfl, rfl⟩ ?_ hx
      intro hwait
      rcases hnext with hnext | hnext
      · cases hnext.symm.trans hwait
      · cases hnext.symm.trans hwait
    unfold utilsFsmRunning
    rw [fsmHandler_stays hreq hinit hcreate hconnect]
    exact .silent hno hrequest rfl ⟨rfl, rfl, rfl⟩ id hx

theorem taken_kept {env : RecvEnv} {pkt : CoapPacket}
    {h : RespHandler CloudHandler} (hresponse : pskResponse c (.response env pkt payload) =
      some ⟨h.owner, payload, env.response.kdfOk⟩) (hwait : c.cur = .pskWaitResp)
    (hoffer : pskOffer J payload = some sn2Str) (htaken : KeyTaken K env.response sn2Str c c') (hx : Exchanging c x) :
    StepKept J K c x (.response env pkt payload) c' := by
  obtain ⟨r, hr, hsn1, hnone⟩ := hx.waiting hwait
  have hstep : exchangeStep J c x (.response env pkt payload) =
      if x.request.map Prod.fst = h.owner then { x with answer := some ⟨c.psk, sn2Str, env.response.kdfOk⟩ } else x := by
    simp [exchangeStep, connects, pskRequest, hresponse, hoffer]
  have hsound : SoundExchange J c x (.response env pkt payload) ↔
      x.request.map Prod.fst = h.owner ∧ (completeSn2 sn2Str).isSome ∧ env.response.kdfOk = true := by
    constructor
    · intro hs
      exact hs.answer _ hresponse sn2Str hoffer
    · intro hs
      refine ⟨?_, ?_⟩
      · intro htrue
        cases htrue
      intro r' hr' sn2Str' hoffer'
      cases hresponse.symm.trans hr'
      cases hoffer.symm.trans hoffer'
      exact hs
  refine ⟨⟨htaken.sn2.trans hx.sn2, fun hcur => absurd hcur htaken.cur⟩, ?_⟩
  intro hfresh
  rw [hsound, freshKey_iff, htaken.finished, forall_prop_of_true rfl, hstep]
  by_cases howner : x.request.map Prod.fst = h.owner
  · rw [if_pos howner]
    constructor
    · rintro ⟨r', a, sn2, hr', ha, hcomplete, hderived, -⟩
      cases ha
      exact ⟨howner, by rw [hcomplete]; rfl, hderived⟩
    · rintro ⟨-, hsome, hderived⟩
      obtain ⟨sn2, hcomplete⟩ := Option.isSome_iff_exists.mp hsome
      have hsn2 := unhexifyInto_complete hcomplete hx.sn2
      refine ⟨r, _, sn2, hr, rfl, hcomplete, hderived, ?_, ?_⟩
      · rw [htaken.salt, hsn2, hsn1]
      · rw [htaken.key hderived, hsn2, hsn1]
  · rw [if_neg howner]
    refine iff_of_false ?_ (fun hs => howner hs.1)
    rintro ⟨r', a, sn2, -, ha, -⟩
    rw [hnone] at ha
    cases ha

theorem KeyTaken.settles {c'' : CloudContext}
    (h : KeyTaken K env sn2Str c c') (hkey : SameKey c' c'') (hs : Settles c' c'') : KeyTaken K env sn2Str c c'' where
  finished := by rw [hkey.pskInfo]; exact h.finished
  sn2 := by rw [hkey.sn2]; exact h.sn2
  salt := by rw [hkey.pskInfo]; exact h.salt
  key := by rw [hkey.pskInfo]; exact h.key
  cur := fun hcur => h.cur (hs.waiting hcur)

theorem CloudHandler.next_waiting {h : CloudHandler} (hnext : h.next c = .pskWaitResp) : c.cur = .pskWaitResp := by
  cases h with
  | pskReg =>
    rw [CloudHandler.next] at hnext
    split_ifs at hnext
  | login =>
    rw [CloudHandler.next] at hnext
    split_ifs at hnext
  | registerReg => cases hnext
  | devInfoSync => cases hnext
  | authCodeReg => cases hnext
  | ecoDevInfo => cases hnext
  | _ => exact hnext

theorem respHandler_other (env : ResponseEnv) (h : CloudHandler) (reply : Reply) (c : CloudContext)
    (hother : h ≠ .pskReg ∨ c.cur ≠ .pskWaitResp) :
    SameKey c (respHandler J K env h reply c) ∧
      ((respHandler J K env h reply c).cur = .pskWaitResp → c.cur = .pskWaitResp) := by
  by_cases hne : h = .pskReg
  · subst hne
    rw [respHandler_of_ne rfl (hother.resolve_left fun hn => hn rfl)]
    exact ⟨⟨rfl, rfl, rfl⟩, id⟩
  · have hr := respHandler_replied (J := J) (K := K) env h reply c
    refine ⟨⟨(hr.key hne).1, hr.sn1, (hr.key hne).2⟩, ?_⟩
    intro hwait
    rcases hr.cur with ⟨hcur, -⟩ | hcur | hcur | hcur | ⟨-, hcur⟩
    · exact hcur.symm.trans hwait
    · cases hcur.symm.trans hwait
    · cases hcur.symm.trans hwait
    · cases hcur.symm.trans hwait
    · exact CloudHandler.next_waiting (hcur.symm.trans hwait)

theorem recvRespPacket_kept (env : RecvEnv) (pkt : CoapPacket) (payload : List UInt8)
    (hlink : c.link = true) (hx : Exchanging c x) :
    StepKept J K c x (.response env pkt payload) (recvRespPacket J K env pkt payload c) := by
  obtain ⟨hsettles, hsame⟩ :=
    timeoutCheck_settles (J := J) (K := K) env.response env.sweep (recvHandled J K env pkt payload c)
  cases hresp : (getRespHandler env.lock c.endpoint.client pkt).1 with
  | none =>
    have hhandled : recvHandled J K env pkt payload c = { c with endpoint := handleResp env.lock pkt c.endpoint } := by
      unfold recvHandled
      rw [hresp]
    have hresponse : pskResponse c (.response env pkt payload) = none := by simp [pskResponse, hresp]
    rw [hhandled] at hsettles hsame
    refine .silent rfl rfl hresponse ?_ ?_ hx
    · unfold recvRespPacket
      rw [hhandled]
      exact ⟨hsame.pskInfo, hsame.sn1, hsame.sn2⟩
    · unfold recvRespPacket
      rw [hhandled]
      exact hsettles.waiting
  | some h =>
    have hhandled : recvHandled J K env pkt payload c = respHandler J K env.response h.fn (.resp payload)
        { c with endpoint := handleResp env.lock pkt c.endpoint } := by
      unfold recvHandled
      rw [hresp]
    by_cases hpsk : h.fn = .pskReg ∧ c.cur = .pskWaitResp
    · have hresponse : pskResponse c (.response env pkt payload) = some ⟨h.owner, payload, env.response.kdfOk⟩ := by
        simp [pskResponse, hresp, hlink, hpsk]
      rw [hpsk.1] at hhandled
      cases hoffer : pskOffer J payload with
      | none =>
        have hconnect : recvHandled J K env pkt payload c =
            { c with endpoint := handleResp env.lock pkt c.endpoint }.changeFsmTo .connect :=
          hhandled.trans (m2mCloudPskRegRespHandler_refused hpsk.2 hoffer)
        rw [hconnect] at hsettles hsame
        refine .idle rfl rfl ?_ ?_ ?_ hx
        · intro r hr
          cases hresponse.symm.trans hr
          exact hoffer
        · unfold recvRespPacket
          rw [hconnect]
          exact ⟨hsame.pskInfo, hsame.sn1, hsame.sn2⟩
        · unfold recvRespPacket
          rw [hconnect]
          intro hwait
          cases hsettles.waiting hwait
      | some sn2Str =>
        have htaken : KeyTaken K env.response sn2Str { c with endpoint := handleResp env.lock pkt c.endpoint }
            (recvHandled J K env pkt payload c) := by
          rw [hhandled]
          exact m2mCloudPskRegRespHandler_taken hpsk.2 hoffer
        have htaken' := htaken.settles hsame hsettles
        exact taken_kept hresponse hpsk.2 hoffer
          ⟨htaken'.finished, htaken'.sn2, htaken'.salt, htaken'.key, htaken'.cur⟩ hx
    · have hresponse : pskResponse c (.response env pkt payload) = none := by
        unfold pskResponse
        dsimp only
        split_ifs with hwait
        · rw [hresp]
          simp [show h.fn ≠ .pskReg from fun hfn => hpsk ⟨hfn, hwait.2⟩]
        · rfl
      have hother : h.fn ≠ .pskReg ∨ c.cur ≠ .pskWaitResp := not_and_or.mp hpsk
      obtain ⟨hkey, hcur⟩ := respHandler_other (J := J) (K := K) env.response h.fn (.resp payload)
        { c with endpoint := handleResp env.lock pkt c.endpoint } hother
      rw [← hhandled] at hkey hcur
      refine .silent rfl rfl hresponse ?_ ?_ hx
      · exact ⟨hsame.pskInfo.trans hkey.pskInfo, hsame.sn1.trans hkey.sn1, hsame.sn2.trans hkey.sn2⟩
      · intro hwait
        exact hcur (hsettles.waiting hwait)

theorem exchangingStep_kept (s : CloudContext × Exchange) (e : CloudEvent) (hx : Exchanging s.1 s.2) :
    StepKept J K s.1 s.2 e (exchangingStep J K s e).1 := by
  obtain ⟨c, x⟩ := s
  have hsent : ∀ (env : RequestEnv) (h : CloudHandler), h ≠ .pskReg →
      SameKey c (m2mCloudSendRequest J K env h c).2 := by
    intro env h hne
    have hkept := m2mCloudSendRequest_keyKept (J := J) (K := K) env h c
    exact ⟨hkept.pskInfo, hkept.sn1 hne, hkept.sn2⟩
  cases e with
  | fsmTimer env => exact utilsFsmRunning_kept env hx
  | response env pkt payload =>
    show StepKept J K c x _ (if c.link then recvRespPacket J K env pkt payload c else c)
    split_ifs with hlink
    · exact recvRespPacket_kept env pkt payload hlink hx
    · exact .idle rfl rfl (by simp [pskResponse, hlink]) ⟨rfl, rfl, rfl⟩ id hx
  | timeoutCheck env sweep =>
    show StepKept J K c x _ (if c.link then timeoutCheck J K env sweep c else c)
    split_ifs with hlink
    · obtain ⟨hsettles, hkey⟩ := timeoutCheck_settles (J := J) (K := K) env sweep c
      exact .silent rfl rfl rfl hkey hsettles.waiting hx
    · exact .silent rfl rfl rfl ⟨rfl, rfl, rfl⟩ id hx
  | linkError =>
    show StepKept J K c x _ (if c.created then cloudSessLinkErrorCallback c else c)
    split_ifs
    · exact .silent rfl rfl rfl ⟨rfl, rfl, rfl⟩ (by intro h; cases h) hx
    · exact .silent rfl rfl rfl ⟨rfl, rfl, rfl⟩ id hx
  | heartbeatTimer env =>
    show StepKept J K c x _ (if c.hbTimer then (m2mCloudSendRequest J K env .heartbeat c).2 else c)
    split_ifs
    · exact .silent rfl rfl rfl (hsent env .heartbeat nofun) (m2mCloudSendRequest_settles env .heartbeat c).waiting hx
    · exact .silent rfl rfl rfl ⟨rfl, rfl, rfl⟩ id hx
  | tokenTimer env now =>
    show StepKept J K c x _ (if c.token.tokenTimer.isSome then tokenTimerCallback J K env now c else c)
    have hkey := hsent env .tokenRefresh nofun
    have hsettles := m2mCloudSendRequest_settles (J := J) (K := K) env .tokenRefresh c
    unfold tokenTimerCallback
    dsimp only
    split_ifs
    · exact .silent rfl rfl rfl hkey hsettles.waiting hx
    · exact .silent rfl rfl rfl ⟨hkey.pskInfo, hkey.sn1, hkey.sn2⟩ hsettles.waiting hx
    · exact .silent rfl rfl rfl ⟨rfl, rfl, rfl⟩ id hx
  | registerTimeout =>
    show StepKept J K c x _ (if c.regTimer then { c with regTimer := false }.changeFsmTo .exit else c)
    split_ifs
    · exact .silent rfl rfl rfl ⟨rfl, rfl, rfl⟩ (by intro h; cases h) hx
    · exact .silent rfl rfl rfl ⟨rfl, rfl, rfl⟩ id hx
  | sleSetup accepted =>
    show StepKept J K c x _ (if c.sleSetupSub && accepted then c.changeFsmTo .getAuthCode else c)
    split_ifs
    · exact .silent rfl rfl rfl ⟨rfl, rfl, rfl⟩ (by intro h; cases h) hx
    · exact .silent rfl rfl rfl ⟨rfl, rfl, rfl⟩ id hx
  | sleDevInfo accepted =>
    show StepKept J K c x _ (if c.sleDevInfoSub && accepted then c.changeFsmTo .ecoDevInfoSync else c)
    split_ifs
    · exact .silent rfl rfl rfl ⟨rfl, rfl, rfl⟩ (by intro h; cases h) hx
    · exact .silent rfl rfl rfl ⟨rfl, rfl, rfl⟩ id hx
  | restart => exact .silent rfl rfl rfl ⟨rfl, rfl, rfl⟩ (by intro h; cases h) hx

/-! ## Runs -/

/-- The key is fresh after every step of a run exactly when every step is sound. -/
theorem run_freshKey_iff (es : List CloudEvent) :
    Along (exchangingStep J K) (fun s e => FreshKey K (exchangingStep J K s e).1 (exchangingStep J K s e).2)
        exchangingStart es ↔
      Along (exchangingStep J K) (fun s e => SoundExchange J s.1 s.2 e) exchangingStart es := by
  have hinv : ∀ s e, (fun s : CloudContext × Exchange => Exchanging s.1 s.2) s →
      (fun s : CloudContext × Exchange => Exchanging s.1 s.2) (exchangingStep J K s e) :=
    fun s e hx => (exchangingStep_kept s e hx).exchanging
  have hkept : ∀ s e, (fun s : CloudContext × Exchange => Exchanging s.1 s.2) s →
      (fun s : CloudContext × Exchange => FreshKey K s.1 s.2) s →
      ((fun s : CloudContext × Exchange => FreshKey K s.1 s.2) (exchangingStep J K s e) ↔ SoundExchange J s.1 s.2 e) :=
    fun s e hx hfresh => (exchangingStep_kept s e hx).fresh hfresh
  have hstart : Exchanging exchangingStart.1 exchangingStart.2 := ⟨rfl, nofun⟩
  have hfresh : FreshKey K exchangingStart.1 exchangingStart.2 := freshKey_iff.mpr nofun
  exact along_kept_iff hinv hkept hstart hfresh es

def sampleSecondConnect : List CloudEvent :=
  [sampleTurn 0 1, sampleTurn 0 2, sampleTurn 0 3, sampleTurn 1 4, sampleAnswer 1 5 2, .linkError, sampleTurn 0 6]

def sampleUnderived : List CloudEvent :=
  [sampleTurn 0 1, sampleTurn 0 2, sampleTurn 0 3, sampleTurn 1 4,
    .response ⟨true, { sampleResponseEnv with kdfOk := false }, ⟨5, fun _ => true⟩⟩ (samplePacket 1) (sampleText 2)]

/-- The second connection starts with the key of the first, and a key that could not be derived is taken for
finished. -/
theorem freshKey_fails :
    ¬ FreshKey sampleKdf (run (exchangingStep sampleJson sampleKdf) exchangingStart sampleSecondConnect).1
        (run (exchangingStep sampleJson sampleKdf) exchangingStart sampleSecondConnect).2 ∧
      ¬ FreshKey sampleKdf (run (exchangingStep sampleJson sampleKdf) exchangingStart sampleUnderived).1
        (run (exchangingStep sampleJson sampleKdf) exchangingStart sampleUnderived).2 := by
  constructor
  · intro hfresh
    have hfinish : (run (exchangingStep sampleJson sampleKdf) exchangingStart sampleSecondConnect).1.pskInfo.pskFinish =
        true := by decide
    have hnone : (run (exchangingStep sampleJson sampleKdf) exchangingStart sampleSecondConnect).2.request = none := by
      decide
    obtain ⟨r, a, sn2, hr, -⟩ := hfresh.finished hfinish
    rw [hnone] at hr
    cases hr
  · intro hfresh
    have hfinish : (run (exchangingStep sampleJson sampleKdf) exchangingStart sampleUnderived).1.pskInfo.pskFinish =
        true := by decide
    have hfailed : (run (exchangingStep sampleJson sampleKdf) exchangingStart sampleUnderived).2.answer.map
        PskAnswer.derived = some false := by decide
    obtain ⟨r, a, sn2, -, ha, -, hderived, -⟩ := hfresh.finished hfinish
    rw [ha] at hfailed
    cases hderived.symm.trans (Option.some.inj hfailed)

end IotConnect.Cloud
