import IotConnect.Cloud.Fsm

/-! # What the parts of the cloud client do

One lemma for each part of a step and each group of fields: the replies to a request, the sweep, the sending
of a request, and what they leave alone. -/
namespace IotConnect.Cloud
open Bytes Coap Endpoint
set_option autoImplicit false

variable {J : JsonAdapter} {K : (password salt : List UInt8) → List UInt8}

/-! ## Groups of fields -/

/-- The link and the requests of `c` and `c'` are the same. -/
structure SameLink (c c' : CloudContext) : Prop where
  endpoint : c'.endpoint = c.endpoint
  link : c'.link = c.link
  created : c'.created = c.created

/-- The key and the random values of `c` and `c'` are the same. -/
structure SameKey (c c' : CloudContext) : Prop where
  pskInfo : c'.pskInfo = c.pskInfo
  sn1 : c'.sn1 = c.sn1
  sn2 : c'.sn2 = c.sn2

/-- `c'` is in the state of `c` or back at one of the states that start over. -/
structure Settles (c c' : CloudContext) : Prop where
  register : c'.register = c.register
  cur : c'.cur = c.cur ∨ c'.cur = .connect ∨ c'.cur = .init

theorem Settles.trans {c c' c'' : CloudContext} (h : Settles c c') (h' : Settles c' c'') : Settles c c'' := by
  refine ⟨h'.register.trans h.register, ?_⟩
  rcases h'.cur with hcur | hcur
  · rw [hcur]
    exact h.cur
  · exact .inr hcur

/-! ## Replies -/

variable {h : CloudHandler} {reply : Reply} {c : CloudContext}

theorem guarded_of_ne {body : List UInt8 → CloudContext}
    (hne : some c.cur ≠ h.waitState) : guarded h reply c body = c := if_pos hne

variable {env : ResponseEnv}

theorem respHandler_of_ne {s : FsmState}
    (hwait : h.waitState = some s) (hne : c.cur ≠ s) : respHandler J K env h reply c = c := by
  have hcur : some c.cur ≠ h.waitState := by
    rw [hwait]
    exact fun heq => hne (Option.some.inj heq)
  cases h with
  | revoke => cases hwait
  | heartbeat => cases hwait
  | tokenRefresh => cases hwait
  | _ => exact guarded_of_ne hcur

theorem respHandler_timeout
    (hwait : h.waitState = some c.cur) : respHandler J K env h .timeout c = c.changeFsmTo .connect := by
  have hcur : ¬ some c.cur ≠ h.waitState := not_not.mpr hwait.symm
  cases h with
  | revoke => cases hwait
  | heartbeat => cases hwait
  | tokenRefresh => cases hwait
  | _ => exact if_neg hcur

/-! ### Parsers -/

theorem m2mCloudLoginResponseParse_context (env : ResponseEnv) (c : CloudContext) (payload : List UInt8) :
    ∃ token, (m2mCloudLoginResponseParse J env c payload).2.2 = { c with token := token } := by
  unfold m2mCloudLoginResponseParse
  split
  · exact ⟨c.token, rfl⟩
  · dsimp only
    split_ifs
    · exact ⟨c.token, rfl⟩
    · exact ⟨_, rfl⟩
    · exact ⟨c.token, rfl⟩

theorem m2mCloudParseDevInfoSyncResponse_context (env : ResponseEnv) (c : CloudContext) (payload : List UInt8) :
    ∃ sentCnt hbTimer, (m2mCloudParseDevInfoSyncResponse J env c payload).2.2 =
      { c with sentCnt := sentCnt, hbTimer := hbTimer } := by
  unfold m2mCloudParseDevInfoSyncResponse
  split
  · exact ⟨c.sentCnt, c.hbTimer, rfl⟩
  · dsimp only
    split_ifs
    · exact ⟨0, _, rfl⟩
    · exact ⟨c.sentCnt, c.hbTimer, rfl⟩

theorem m2mCloudParseAuthCodeResponse_context (c : CloudContext) (payload : List UInt8) :
    ∃ info, (m2mCloudParseAuthCodeResponse J c payload).context = { c with authCodeInfo := info } := by
  unfold m2mCloudParseAuthCodeResponse
  dsimp only
  repeat' split
  all_goals exact ⟨_, rfl⟩

theorem m2mCloudParsePskResponse_context (env : ResponseEnv) (c : CloudContext) (payload : List UInt8) :
    ∃ pskInfo sn2, (m2mCloudParsePskResponse J K env c payload).2 = { c with pskInfo := pskInfo, sn2 := sn2 } := by
  unfold m2mCloudParsePskResponse
  split
  · exact ⟨c.pskInfo, c.sn2, rfl⟩
  split_ifs
  · exact ⟨c.pskInfo, c.sn2, rfl⟩
  split
  · exact ⟨c.pskInfo, c.sn2, rfl⟩
  split
  · exact ⟨c.pskInfo, c.sn2, rfl⟩
  dsimp only
  unfold stationSessKeyGen
  dsimp only
  split_ifs
  · exact ⟨_, _, rfl⟩
  · exact ⟨_, _, rfl⟩

theorem sleDeviceCloudFsmInit_context (env : ResponseEnv) (c : CloudContext) :
    ∃ setup devInfo, sleDeviceCloudFsmInit env c = { c with sleSetupSub := setup, sleDevInfoSub := devInfo } := by
  unfold sleDeviceCloudFsmInit
  split_ifs
  · exact ⟨_, _, rfl⟩
  · exact ⟨_, _, rfl⟩
  · exact ⟨_, _, rfl⟩

/-! ### What a reply can do -/

def CloudHandler.next (h : CloudHandler) (c : CloudContext) : FsmState :=
  match h with
  | .pskReg => if c.register then .register else .login
  | .registerReg => .login
  | .login => if c.revoke then .revoke else .devInfoSync
  | .devInfoSync => .authCode
  | .authCodeReg => .online
  | .ecoDevInfo => .ecoStateSync
  | _ => c.cur

def CloudHandler.mayStay : CloudHandler → Bool
  | .devId => true
  | .ecoDevInfo => true
  | .ecoDevState => true
  | _ => false

/-- A response whose error code the handler goes on with: one that is `0` after it was cut to 32 bits, and
any that could be read for the authentication code. -/
structure Accepted (J : JsonAdapter) (h : CloudHandler) (reply : Reply) (c : CloudContext) : Prop where
  waits : h.waitState = some c.cur
  errcode : ∃ payload e, reply = .resp payload ∧ carriedErrcode J payload = some e ∧
    (h ≠ .authCodeReg → Int.bmod e (2 ^ 32) = 0)

/-- The effects that a reply to a request may have. -/
structure Replied (J : JsonAdapter) (h : CloudHandler) (reply : Reply) (c c' : CloudContext) : Prop where
  sameLink : SameLink c c'
  sn1 : c'.sn1 = c.sn1
  key : h ≠ .pskReg → c'.pskInfo = c.pskInfo ∧ c'.sn2 = c.sn2
  register : h ≠ .registerReg → c'.register = c.register
  cur : c'.cur = c.cur ∧ (h.waitState = some c.cur → h.mayStay) ∨
    c'.cur = .connect ∨ c'.cur = .init ∨ c'.cur = .exit ∨ Accepted J h reply c ∧ c'.cur = h.next c

theorem Replied.ignored (hstay : h.waitState = some c.cur → h.mayStay) : Replied J h reply c c :=
  ⟨⟨rfl, rfl, rfl⟩, rfl, fun _ => ⟨rfl, rfl⟩, fun _ => rfl, .inl ⟨rfl, hstay⟩⟩

theorem Replied.connect (J : JsonAdapter) (h : CloudHandler) (reply : Reply) (c : CloudContext) :
    Replied J h reply c (c.changeFsmTo .connect) :=
  ⟨⟨rfl, rfl, rfl⟩, rfl, fun _ => ⟨rfl, rfl⟩, fun _ => rfl, .inr (.inl rfl)⟩

theorem guarded_replied {body : List UInt8 → CloudContext}
    (hbody : ∀ payload, h.waitState = some c.cur → reply = .resp payload → Replied J h reply c (body payload)) :
    Replied J h reply c (guarded h reply c body) := by
  unfold guarded
  by_cases hwait : some c.cur ≠ h.waitState
  · rw [if_pos hwait]
    exact .ignored fun heq => absurd heq.symm hwait
  · rw [if_neg hwait]
    cases reply with
    | timeout => exact .connect J h .timeout c
    | resp payload => exact hbody payload (not_not.mp hwait).symm rfl

variable {payload : List UInt8}

theorem respErrcode_ok {json : J.Obj} {errcode : Int} (h : respErrcode J payload = .ok (json, errcode)) :
    ∃ e, carriedErrcode J payload = some e ∧ errcode = Int.bmod e (2 ^ 32) := by
  unfold respErrcode at h
  split_ifs at h
  unfold carriedErrcode
  cases hparse : J.parseWithLen payload with
  | none =>
    rw [hparse] at h
    cases h
  | some obj =>
    simp only [hparse] at h
    cases hnum : utilsJsonGetNum J obj "errcode" with
    | error ret =>
      simp only [hnum] at h
      cases h
    | ok n =>
      simp only [hnum, Except.ok.injEq, Prod.mk.injEq] at h
      obtain ⟨e, he, hn⟩ := utilsJsonGetNum_ok hnum
      exact ⟨e, he, h.2 ▸ hn⟩

/-- The error code that a payload carries is `0` after it was cut to 32 bits. -/
def ReadsZero (J : JsonAdapter) (payload : List UInt8) : Prop :=
  ∃ e, carriedErrcode J payload = some e ∧ Int.bmod e (2 ^ 32) = 0

theorem readsZero_of_respErrcode {json : J.Obj} (h : respErrcode J payload = .ok (json, 0)) :
    ReadsZero J payload := by
  obtain ⟨e, he, hzero⟩ := respErrcode_ok h
  exact ⟨e, he, hzero.symm⟩

theorem Accepted.of_readsZero
    (hwait : h.waitState = some c.cur) (hzero : ReadsZero J payload) : Accepted J h (.resp payload) c := by
  obtain ⟨e, he, hbmod⟩ := hzero
  exact ⟨hwait, payload, e, rfl, he, fun _ => hbmod⟩

theorem m2mCloudParsePskResponse_ok
    (h : (m2mCloudParsePskResponse J K env c payload).1 = .ok) : ReadsZero J payload := by
  unfold m2mCloudParsePskResponse at h
  cases hcode : respErrcode J payload with
  | error ret =>
    rw [hcode] at h
    exact absurd h ret.property
  | ok r =>
    obtain ⟨json, errcode⟩ := r
    simp only [hcode] at h
    split_ifs at h with hne
    rw [not_not.mp hne] at hcode
    exact readsZero_of_respErrcode hcode

theorem m2mCloudParseRegisterResponse_ok (h : (m2mCloudParseRegisterResponse J env payload).1 = .ok)
    (hzero : (m2mCloudParseRegisterResponse J env payload).2 = 0) : ReadsZero J payload := by
  unfold m2mCloudParseRegisterResponse at h hzero
  cases hcode : respErrcode J payload with
  | error ret =>
    rw [hcode] at h
    exact absurd h ret.property
  | ok r =>
    obtain ⟨json, errcode⟩ := r
    simp only [hcode] at hzero
    have hcode' : errcode = 0 := by
      by_contra hne
      rw [if_pos hne] at hzero
      exact hne hzero
    rw [hcode'] at hcode
    exact readsZero_of_respErrcode hcode

theorem m2mCloudLoginResponseParse_ok (h : (m2mCloudLoginResponseParse J env c payload).1 = 0)
    (hzero : (m2mCloudLoginResponseParse J env c payload).2.1 = 0) : ReadsZero J payload := by
  unfold m2mCloudLoginResponseParse at h hzero
  cases hcode : respErrcode J payload with
  | error ret =>
    simp only [hcode] at h
    exact absurd ((IotcRet.code_eq_zero_iff _).mp h) ret.property
  | ok r =>
    obtain ⟨json, errcode⟩ := r
    simp only [hcode] at hzero
    have hcode' : errcode = 0 := by
      split_ifs at hzero
      · exact hzero
      · exact hzero
      · exact hzero
    rw [hcode'] at hcode
    exact readsZero_of_respErrcode hcode

theorem m2mCloudParseDevInfoSyncResponse_ok (h : (m2mCloudParseDevInfoSyncResponse J env c payload).1 = .ok)
    (hzero : (m2mCloudParseDevInfoSyncResponse J env c payload).2.1 = 0) : ReadsZero J payload := by
  unfold m2mCloudParseDevInfoSyncResponse at h hzero
  cases hcode : respErrcode J payload with
  | error ret =>
    rw [hcode] at h
    exact absurd h ret.property
  | ok r =>
    obtain ⟨json, errcode⟩ := r
    simp only [hcode] at hzero
    rw [hzero] at hcode
    exact readsZero_of_respErrcode hcode

theorem m2mCloudParseAuthCodeResponse_of_error {ret : IotcErr} (h : respErrcode J payload = .error ret) :
    (m2mCloudParseAuthCodeResponse J c payload).ret = ret.val := by
  unfold respErrcode at h
  unfold m2mCloudParseAuthCodeResponse
  split_ifs at h ⊢
  · cases h
    rfl
  cases hparse : J.parseWithLen payload with
  | none =>
    rw [hparse] at h
    cases h
    rfl
  | some json =>
    simp only [hparse] at h ⊢
    cases hnum : utilsJsonGetNum J json "errcode" with
    | error err =>
      rw [hnum] at h
      cases h
      rfl
    | ok errcode =>
      rw [hnum] at h
      cases h

theorem m2mCloudParseAuthCodeResponse_ok
    (h : (m2mCloudParseAuthCodeResponse J c payload).ret = .ok) : ∃ e, carriedErrcode J payload = some e := by
  cases hcode : respErrcode J payload with
  | error ret =>
    rw [m2mCloudParseAuthCodeResponse_of_error hcode] at h
    exact absurd h ret.property
  | ok r =>
    obtain ⟨e, he, -⟩ := respErrcode_ok hcode
    exact ⟨e, he⟩

theorem m2mCloudParseEcoDevInfoByResponse_cases (c : CloudContext) (payload : List UInt8) :
    (m2mCloudParseEcoDevInfoByResponse J c payload).2 = c ∨ ReadsZero J payload ∧
      (m2mCloudParseEcoDevInfoByResponse J c payload).2 = c.changeFsmTo .ecoStateSync := by
  unfold m2mCloudParseEcoDevInfoByResponse
  cases hcode : respErrcode J payload with
  | error ret => exact .inl rfl
  | ok r =>
    obtain ⟨json, errcode⟩ := r
    dsimp only
    split_ifs with hne
    · exact .inl rfl
    · rw [not_not.mp hne] at hcode
      exact .inr ⟨readsZero_of_respErrcode hcode, rfl⟩

/-! ### The handlers -/

theorem m2mCloudPskRegRespHandler_replied (env : ResponseEnv) (reply : Reply) (c : CloudContext) :
    Replied J .pskReg reply c (m2mCloudPskRegRespHandler J K env reply c) := by
  refine guarded_replied ?_
  rintro payload hwait rfl
  obtain ⟨pskInfo, sn2, hctx⟩ := m2mCloudParsePskResponse_context (J := J) (K := K) env c payload
  dsimp only
  rw [hctx]
  by_cases hret : (m2mCloudParsePskResponse J K env c payload).1 ≠ .ok
  · rw [if_pos hret]
    exact ⟨⟨rfl, rfl, rfl⟩, rfl, fun hne => absurd rfl hne, fun _ => rfl, .inr (.inl rfl)⟩
  · rw [if_neg hret]
    have haccepted := Accepted.of_readsZero hwait (m2mCloudParsePskResponse_ok (not_not.mp hret))
    exact ⟨⟨rfl, rfl, rfl⟩, rfl, fun hne => absurd rfl hne, fun _ => rfl, .inr (.inr (.inr (.inr ⟨haccepted, rfl⟩)))⟩

theorem m2mCloudRegisterRegRespHandler_replied (env : ResponseEnv) (reply : Reply) (c : CloudContext) :
    Replied J .registerReg reply c (m2mCloudRegisterRegRespHandler J env reply c) := by
  refine guarded_replied ?_
  rintro payload hwait rfl
  dsimp only
  split_ifs with hret hzero
  · exact .connect J .registerReg _ c
  · exact ⟨⟨rfl, rfl, rfl⟩, rfl, fun _ => ⟨rfl, rfl⟩, fun hne => absurd rfl hne, .inr (.inr (.inr (.inl rfl)))⟩
  · have haccepted := Accepted.of_readsZero hwait
      (m2mCloudParseRegisterResponse_ok (not_not.mp hret) (not_not.mp hzero))
    split
    · exact ⟨⟨rfl, rfl, rfl⟩, rfl, fun _ => ⟨rfl, rfl⟩, fun hne => absurd rfl hne, .inr (.inr (.inr (.inl rfl)))⟩
    · exact ⟨⟨rfl, rfl, rfl⟩, rfl, fun _ => ⟨rfl, rfl⟩, fun hne => absurd rfl hne,
        .inr (.inr (.inr (.inr ⟨haccepted, rfl⟩)))⟩

theorem cloudLoginRespHandler_replied (env : ResponseEnv) (reply : Reply) (c : CloudContext) :
    Replied J .login reply c (cloudLoginRespHandler J env reply c) := by
  refine guarded_replied ?_
  rintro payload hwait rfl
  obtain ⟨token, hctx⟩ := m2mCloudLoginResponseParse_context (J := J) env c payload
  dsimp only
  rw [hctx]
  by_cases hret : (m2mCloudLoginResponseParse J env c payload).1 ≠ 0 ∨
      (m2mCloudLoginResponseParse J env c payload).2.1 ≠ 0
  · rw [if_pos hret]
    exact ⟨⟨rfl, rfl, rfl⟩, rfl, fun _ => ⟨rfl, rfl⟩, fun _ => rfl, .inr (.inl rfl)⟩
  · rw [if_neg hret]
    rw [not_or, not_not, not_not] at hret
    have haccepted := Accepted.of_readsZero hwait (m2mCloudLoginResponseParse_ok hret.1 hret.2)
    exact ⟨⟨rfl, rfl, rfl⟩, rfl, fun _ => ⟨rfl, rfl⟩, fun _ => rfl, .inr (.inr (.inr (.inr ⟨haccepted, rfl⟩)))⟩

theorem m2mCloudAuthCodeRegRespHandler_replied (env : ResponseEnv) (reply : Reply) (c : CloudContext) :
    Replied J .authCodeReg reply c (m2mCloudAuthCodeRegRespHandler J env reply c) := by
  refine guarded_replied ?_
  rintro payload hwait rfl
  obtain ⟨info, hctx⟩ := m2mCloudParseAuthCodeResponse_context (J := J) c payload
  obtain ⟨setup, devInfo, hsle⟩ :=
    sleDeviceCloudFsmInit_context env ({ c with authCodeInfo := info }.changeFsmTo .online)
  dsimp only
  rw [hctx, hsle]
  split_ifs with hret
  · exact ⟨⟨rfl, rfl, rfl⟩, rfl, fun _ => ⟨rfl, rfl⟩, fun _ => rfl, .inr (.inl rfl)⟩
  · obtain ⟨e, he⟩ := m2mCloudParseAuthCodeResponse_ok (not_not.mp hret)
    have haccepted : Accepted J .authCodeReg (.resp payload) c :=
      ⟨hwait, payload, e, rfl, he, fun hne => absurd rfl hne⟩
    exact ⟨⟨rfl, rfl, rfl⟩, rfl, fun _ => ⟨rfl, rfl⟩, fun _ => rfl, .inr (.inr (.inr (.inr ⟨haccepted, rfl⟩)))⟩

theorem cloudDevInfoSyncRespHandler_replied (env : ResponseEnv) (reply : Reply) (c : CloudContext) :
    Replied J .devInfoSync reply c (cloudDevInfoSyncRespHandler J env reply c) := by
  refine guarded_replied ?_
  rintro payload hwait rfl
  obtain ⟨sentCnt, hbTimer, hctx⟩ := m2mCloudParseDevInfoSyncResponse_context (J := J) env c payload
  dsimp only
  rw [hctx]
  split_ifs with hret
  · exact ⟨⟨rfl, rfl, rfl⟩, rfl, fun _ => ⟨rfl, rfl⟩, fun _ => rfl, .inr (.inl rfl)⟩
  · rw [not_or, not_not, not_not] at hret
    have haccepted := Accepted.of_readsZero hwait (m2mCloudParseDevInfoSyncResponse_ok hret.1 hret.2)
    exact ⟨⟨rfl, rfl, rfl⟩, rfl, fun _ => ⟨rfl, rfl⟩, fun _ => rfl, .inr (.inr (.inr (.inr ⟨haccepted, rfl⟩)))⟩

theorem m2mCloudEcoDevInfoRespHandler_replied (reply : Reply) (c : CloudContext) :
    Replied J .ecoDevInfo reply c (m2mCloudEcoDevInfoRespHandler J reply c) := by
  refine guarded_replied ?_
  rintro payload hwait rfl
  dsimp only
  rcases m2mCloudParseEcoDevInfoByResponse_cases (J := J) c payload with hctx | ⟨hzero, hctx⟩
  · rw [hctx]
    split_ifs
    · exact .connect J .ecoDevInfo _ c
    · exact .ignored fun _ => rfl
  · rw [hctx]
    split_ifs
    · exact .connect J .ecoDevInfo _ c
    · exact ⟨⟨rfl, rfl, rfl⟩, rfl, fun _ => ⟨rfl, rfl⟩, fun _ => rfl,
        .inr (.inr (.inr (.inr ⟨.of_readsZero hwait hzero, rfl⟩)))⟩

theorem m2mCloudHeartbbeatRespHandler_replied (env : ResponseEnv) (reply : Reply) (c : CloudContext) :
    Replied J .heartbeat reply c (m2mCloudHeartbbeatRespHandler J env reply c) := by
  unfold m2mCloudHeartbbeatRespHandler
  split
  · split_ifs
    · exact ⟨⟨rfl, rfl, rfl⟩, rfl, fun _ => ⟨rfl, rfl⟩, fun _ => rfl, .inr (.inl rfl)⟩
    · exact .ignored nofun
  · split
    · exact .ignored nofun
    · split_ifs
      · exact .ignored nofun
      · exact ⟨⟨rfl, rfl, rfl⟩, rfl, fun _ => ⟨rfl, rfl⟩, fun _ => rfl, .inl ⟨rfl, nofun⟩⟩

theorem respHandler_replied (env : ResponseEnv) (h : CloudHandler) (reply : Reply) (c : CloudContext) :
    Replied J h reply c (respHandler J K env h reply c) := by
  cases h with
  | pskReg => exact m2mCloudPskRegRespHandler_replied env reply c
  | registerReg => exact m2mCloudRegisterRegRespHandler_replied env reply c
  | login => exact cloudLoginRespHandler_replied env reply c
  | revoke => exact ⟨⟨rfl, rfl, rfl⟩, rfl, fun _ => ⟨rfl, rfl⟩, fun _ => rfl, .inr (.inr (.inl rfl))⟩
  | authCodeReg => exact m2mCloudAuthCodeRegRespHandler_replied env reply c
  | devInfoSync => exact cloudDevInfoSyncRespHandler_replied env reply c
  | devId =>
    refine guarded_replied ?_
    rintro payload - rfl
    split_ifs
    · exact .connect J .devId _ c
    · exact .ignored fun _ => rfl
  | ecoDevInfo => exact m2mCloudEcoDevInfoRespHandler_replied reply c
  | ecoDevState =>
    refine guarded_replied ?_
    rintro payload - rfl
    split_ifs
    · exact .connect J .ecoDevState _ c
    · exact .ignored fun _ => rfl
  | heartbeat => exact m2mCloudHeartbbeatRespHandler_replied env reply c
  | tokenRefresh => exact ⟨⟨rfl, rfl, rfl⟩, rfl, fun _ => ⟨rfl, rfl⟩, fun _ => rfl, .inl ⟨rfl, nofun⟩⟩

theorem respHandler_settles (hwait : h.waitState ≠ some c.cur) : Settles c (respHandler J K env h reply c) := by
  cases hstate : h.waitState with
  | some s =>
    have hne : c.cur ≠ s := by
      rintro rfl
      exact hwait hstate
    rw [respHandler_of_ne hstate hne]
    exact ⟨rfl, .inl rfl⟩
  | none =>
    cases h with
    | revoke => exact ⟨rfl, .inr (.inr rfl)⟩
    | heartbeat =>
      show Settles c (m2mCloudHeartbbeatRespHandler J env reply c)
      unfold m2mCloudHeartbbeatRespHandler
      split
      · split_ifs
        · exact ⟨rfl, .inr (.inl rfl)⟩
        · exact ⟨rfl, .inl rfl⟩
      · split
        · exact ⟨rfl, .inl rfl⟩
        · split_ifs <;> exact ⟨rfl, .inl rfl⟩
    | tokenRefresh => exact ⟨rfl, .inl rfl⟩
    | _ => cases hstate

/-! ## The sweep -/

/-- The context after the first round of a sweep has removed the expired requests. -/
def sweptContext (sweep : SweepEnv) (c : CloudContext) : CloudContext :=
  { c with endpoint := (timeoutRound (sweep.lock 0) sweep.cur c.endpoint).2 }

theorem timeoutRound_client (lock : Bool) (cur : UInt32) (s : CoapEndpoint CloudHandler) :
    (timeoutRound lock cur s).2.client = (getTimeoutRespHandler lock cur s.client).2 := by
  unfold timeoutRound
  dsimp only
  split <;> rfl

theorem timeoutCheckRound_none {sweep : SweepEnv} (hreq : sweep.request c.endpoint.client = none) :
    timeoutCheckRound J K env (sweep.lock 0) sweep.cur c = (false, c) := by
  have hfirst := getTimeoutRespHandler_request sweep c.endpoint.client
  rw [hreq] at hfirst
  unfold timeoutCheckRound timeoutRound
  dsimp only
  rw [hfirst, getTimeoutRespHandler_of_none hreq]
  rfl

theorem timeoutCheckRound_some {sweep : SweepEnv}
    {node : CoapReqNode CloudHandler} (hreq : sweep.request c.endpoint.client = some node) :
    timeoutCheckRound J K env (sweep.lock 0) sweep.cur c =
      (true, respHandler J K env node.respHandler .timeout (sweptContext sweep c)) := by
  have hfirst := getTimeoutRespHandler_request sweep c.endpoint.client
  rw [hreq] at hfirst
  unfold timeoutCheckRound sweptContext timeoutRound
  dsimp only
  rw [hfirst]
  rfl

variable {c' : CloudContext}

theorem timeoutCheckRound_again {lock lock' : Bool} (hlock : lock = true) {cur : UInt32}
    (hsame : c'.endpoint = (timeoutRound lock cur c.endpoint).2) :
    timeoutCheckRound J K env lock' cur c' = (false, c') := by
  have hnone : getTimeoutRespHandler lock' cur c'.endpoint.client = (none, c'.endpoint.client) := by
    rw [hsame, timeoutRound_client]
    exact getTimeoutRespHandler_again hlock cur c.endpoint.client
  unfold timeoutCheckRound timeoutRound
  rw [hnone]

theorem timeoutCheck_eq (env : ResponseEnv) (sweep : SweepEnv) (c : CloudContext) :
    timeoutCheck J K env sweep c =
      match sweep.request c.endpoint.client with
      | none => c
      | some node => respHandler J K env node.respHandler .timeout (sweptContext sweep c) := by
  unfold timeoutCheck
  rw [timeoutCheckLoop]
  cases hreq : sweep.request c.endpoint.client with
  | none =>
    rw [timeoutCheckRound_none hreq]
    rfl
  | some node =>
    have hlock : sweep.lock 0 = true := by
      unfold SweepEnv.request at hreq
      split_ifs at hreq with hlock
      simpa using hlock
    obtain ⟨n, hn⟩ : ∃ n, c.endpoint.client.reqList.length = n + 1 := by
      have := List.length_pos_of_mem (SweepEnv.request_mem hreq)
      exact ⟨c.endpoint.client.reqList.length - 1, by omega⟩
    have hsame := (respHandler_replied (J := J) (K := K) env node.respHandler .timeout
      (sweptContext sweep c)).sameLink.endpoint
    rw [timeoutCheckRound_some hreq]
    dsimp only
    rw [if_pos rfl, hn, timeoutCheckLoop, timeoutCheckRound_again hlock hsame]
    rfl

theorem respHandler_timeout_cases (env : ResponseEnv) (h : CloudHandler) (c : CloudContext) :
    respHandler J K env h .timeout c = c ∨
      h.waitState = some c.cur ∧ respHandler J K env h .timeout c = c.changeFsmTo .connect ∨
      h = .revoke ∧ respHandler J K env h .timeout c = c.changeFsmTo .init ∨
      h = .heartbeat ∧ cloudHbTimeoutCnt ≤ c.sentCnt ∧
        respHandler J K env h .timeout c = (m2mCloudDisableHeartbeat c).changeFsmTo .connect := by
  cases hwait : h.waitState with
  | some s =>
    by_cases hcur : c.cur = s
    · rw [← hcur] at hwait
      exact .inr (.inl ⟨congrArg some hcur.symm, respHandler_timeout hwait⟩)
    · exact .inl (respHandler_of_ne hwait hcur)
  | none =>
    cases h with
    | revoke => exact .inr (.inr (.inl ⟨rfl, rfl⟩))
    | heartbeat =>
      by_cases hcnt : c.sentCnt ≥ cloudHbTimeoutCnt
      · exact .inr (.inr (.inr ⟨rfl, hcnt, if_pos hcnt⟩))
      · exact .inl (if_neg hcnt)
    | tokenRefresh => exact .inl rfl
    | _ => cases hwait

theorem timeoutCheck_settles (env : ResponseEnv) (sweep : SweepEnv) (c : CloudContext) :
    Settles c (timeoutCheck J K env sweep c) ∧ SameKey c (timeoutCheck J K env sweep c) := by
  rw [timeoutCheck_eq]
  cases sweep.request c.endpoint.client with
  | none => exact ⟨⟨rfl, .inl rfl⟩, rfl, rfl, rfl⟩
  | some node =>
    dsimp only
    rcases respHandler_timeout_cases (J := J) (K := K) env node.respHandler (sweptContext sweep c) with
      heq | ⟨-, heq⟩ | ⟨-, heq⟩ | ⟨-, -, heq⟩
    · rw [heq]
      exact ⟨⟨rfl, .inl rfl⟩, rfl, rfl, rfl⟩
    · rw [heq]
      exact ⟨⟨rfl, .inr (.inl rfl)⟩, rfl, rfl, rfl⟩
    · rw [heq]
      exact ⟨⟨rfl, .inr (.inr rfl)⟩, rfl, rfl, rfl⟩
    · rw [heq]
      exact ⟨⟨rfl, .inr (.inl rfl)⟩, rfl, rfl, rfl⟩

/-! ## Sending -/

/-- What sending a request leaves alone: of the values of the exchange, a request for a key draws `sn1`. -/
structure KeyKept (h : CloudHandler) (c c' : CloudContext) : Prop where
  pskInfo : c'.pskInfo = c.pskInfo
  sn2 : c'.sn2 = c.sn2
  sn1 : h ≠ .pskReg → c'.sn1 = c.sn1

theorem KeyKept.trans {h : CloudHandler} {c c' c'' : CloudContext} (hk : KeyKept h c c') (hs : SameKey c' c'') :
    KeyKept h c c'' :=
  ⟨hs.pskInfo.trans hk.pskInfo, hs.sn2.trans hk.sn2, fun hne => hs.sn1.trans (hk.sn1 hne)⟩

theorem m2mBuildRequest_settles (env : RequestEnv) (h : CloudHandler) (c : CloudContext) :
    Settles c (m2mBuildRequest env h c).2 ∧ SameLink c (m2mBuildRequest env h c).2 ∧
      KeyKept h c (m2mBuildRequest env h c).2 := by
  unfold m2mBuildRequest
  by_cases hjson : env.jsonCreate = false
  · rw [if_pos hjson]
    exact ⟨⟨rfl, .inl rfl⟩, ⟨rfl, rfl, rfl⟩, rfl, rfl, fun _ => rfl⟩
  · rw [if_neg hjson]
    cases h with
    | pskReg => exact ⟨⟨rfl, .inl rfl⟩, ⟨rfl, rfl, rfl⟩, rfl, rfl, fun hne => absurd rfl hne⟩
    | heartbeat =>
      dsimp only
      split_ifs <;> exact ⟨⟨rfl, .inl rfl⟩, ⟨rfl, rfl, rfl⟩, rfl, rfl, fun _ => rfl⟩
    | _ => exact ⟨⟨rfl, .inl rfl⟩, ⟨rfl, rfl, rfl⟩, rfl, rfl, fun _ => rfl⟩

/-- The context in which a request is on its way and the endpoint goes on to record it. -/
def sentContext (env : RequestEnv) (h : CloudHandler) (c : CloudContext) : Option CloudContext :=
  if c.created = false ∨ env.options = false ∨ (m2mBuildRequest env h c).1 = false then none
  else
    match env.outcome with
    | .sent _ => some (m2mBuildRequest env h c).2
    | _ => none

theorem sentContext_eq {env : RequestEnv}
    (hsent : sentContext env h c = some c') : c' = (m2mBuildRequest env h c).2 := by
  unfold sentContext at hsent
  split_ifs at hsent
  split at hsent
  · exact (Option.some.inj hsent).symm
  · cases hsent

theorem m2mCloudSendRequest_of_sent {env : RequestEnv}
    (hsent : sentContext env h c = some c') : ∃ endpoint, m2mCloudSendRequest J K env h c =
      (.ok, { timeoutCheck J K env.response env.sweep c' with endpoint := endpoint }) := by
  unfold sentContext at hsent
  split_ifs at hsent with hfail
  obtain ⟨hcreated, hoptions, hbuilt⟩ := by simpa only [not_or] using hfail
  unfold m2mCloudSendRequest
  rw [if_neg hcreated, if_neg hoptions]
  dsimp only
  rw [if_neg hbuilt]
  cases houtcome : env.outcome with
  | failed ret =>
    rw [houtcome] at hsent
    cases hsent
  | linkError ret =>
    rw [houtcome] at hsent
    cases hsent
  | sent pkt =>
    rw [houtcome] at hsent
    cases hsent
    exact ⟨_, rfl⟩

theorem m2mCloudSendRequest_of_unsent {env : RequestEnv}
    (hunsent : sentContext env h c = none) : (m2mCloudSendRequest J K env h c).1 ≠ .ok ∧
      ((m2mCloudSendRequest J K env h c).2 = c ∨
        (m2mCloudSendRequest J K env h c).2 = (m2mBuildRequest env h c).2 ∨
        (m2mCloudSendRequest J K env h c).2 = cloudSessLinkErrorCallback (m2mBuildRequest env h c).2) := by
  unfold m2mCloudSendRequest
  by_cases hcreated : c.created = false
  · rw [if_pos hcreated]
    exact ⟨nofun, .inl rfl⟩
  by_cases hoptions : env.options = false
  · rw [if_neg hcreated, if_pos hoptions]
    exact ⟨nofun, .inl rfl⟩
  rw [if_neg hcreated, if_neg hoptions]
  dsimp only
  by_cases hbuilt : (m2mBuildRequest env h c).1 = false
  · rw [if_pos hbuilt]
    exact ⟨nofun, .inr (.inl rfl)⟩
  rw [if_neg hbuilt]
  cases houtcome : env.outcome with
  | failed ret => exact ⟨ret.property, .inr (.inl rfl)⟩
  | linkError ret => exact ⟨ret.property, .inr (.inr rfl)⟩
  | sent pkt =>
    simp [sentContext, hcreated, hoptions, hbuilt, houtcome] at hunsent

theorem m2mCloudSendRequest_settles (env : RequestEnv) (h : CloudHandler) (c : CloudContext) :
    Settles c (m2mCloudSendRequest J K env h c).2 := by
  have hbuild := (m2mBuildRequest_settles env h c).1
  cases hsent : sentContext env h c with
  | none =>
    rcases (m2mCloudSendRequest_of_unsent (J := J) (K := K) hsent).2 with heq | heq | heq
    · rw [heq]
      exact ⟨rfl, .inl rfl⟩
    · rw [heq]
      exact hbuild
    · rw [heq]
      exact hbuild.trans ⟨rfl, .inr (.inl rfl)⟩
  | some c' =>
    obtain ⟨endpoint, heq⟩ := m2mCloudSendRequest_of_sent (J := J) (K := K) hsent
    have hsweep := (timeoutCheck_settles (J := J) (K := K) env.response env.sweep c').1
    rw [heq]
    rw [sentContext_eq hsent] at hsweep ⊢
    exact hbuild.trans ⟨hsweep.register, hsweep.cur⟩

theorem m2mCloudSendRequest_keyKept (env : RequestEnv) (h : CloudHandler) (c : CloudContext) :
    KeyKept h c (m2mCloudSendRequest J K env h c).2 := by
  have hbuild := (m2mBuildRequest_settles env h c).2.2
  cases hsent : sentContext env h c with
  | none =>
    rcases (m2mCloudSendRequest_of_unsent (J := J) (K := K) hsent).2 with heq | heq | heq
    · rw [heq]
      exact ⟨rfl, rfl, fun _ => rfl⟩
    · rw [heq]
      exact hbuild
    · rw [heq]
      exact hbuild.trans ⟨rfl, rfl, rfl⟩
  | some c' =>
    obtain ⟨endpoint, heq⟩ := m2mCloudSendRequest_of_sent (J := J) (K := K) hsent
    have hsweep := (timeoutCheck_settles (J := J) (K := K) env.response env.sweep c').2
    rw [heq]
    rw [sentContext_eq hsent] at hsweep ⊢
    exact hbuild.trans ⟨hsweep.pskInfo, hsweep.sn1, hsweep.sn2⟩

theorem m2mCloudSendRequest_sn1 {env : RequestEnv}
    (hsent : sentContext env h c = some c') : (m2mCloudSendRequest J K env h c).2.sn1 = c'.sn1 := by
  obtain ⟨endpoint, heq⟩ := m2mCloudSendRequest_of_sent (J := J) (K := K) hsent
  rw [heq]
  exact (timeoutCheck_settles (J := J) (K := K) env.response env.sweep c').2.sn1

/-! ## State handlers -/

theorem cloudFsmInitHandler_context (env : InitEnv) (c : CloudContext) : ∃ register revoke regTimer authInfo,
    (cloudFsmInitHandler env c).2 = { c with
      register := register, revoke := revoke, enableBackoff := false, regTimer := regTimer, authInfo := authInfo } := by
  unfold cloudFsmInitHandler
  dsimp only
  by_cases hbound : env.bindStatus = .bind ∨ env.bindStatus = .revoke
  · rw [if_pos hbound]
    split
    · exact ⟨_, _, _, _, rfl⟩
    · exact ⟨_, _, _, _, rfl⟩
  · rw [if_neg hbound]
    split
    · exact ⟨_, _, _, _, rfl⟩
    · split_ifs
      · exact ⟨_, _, _, _, rfl⟩
      · exact ⟨_, _, _, _, rfl⟩
      · exact ⟨_, _, _, _, rfl⟩

theorem cloudFsmCreateLinkHandler_context (env : CreateEnv) (c : CloudContext) : ∃ created endpoint enable info,
    (cloudFsmCreateLinkHandler env c).2 = { c with
      link := false, created := created, endpoint := endpoint, enableBackoff := enable, backoffInfo := info } := by
  obtain ⟨created, endpoint, hcreate⟩ : ∃ created endpoint,
      m2mCloudLinkCreate env c = { c with link := false, created := created, endpoint := endpoint } := by
    unfold m2mCloudLinkCreate
    dsimp only
    split_ifs
    · exact ⟨_, _, rfl⟩
    · exact ⟨_, _, rfl⟩
  obtain ⟨enable, info, hbackoff⟩ := m2mCloudBackoffInit_eq { c with link := false, created := created, endpoint := endpoint }
  unfold cloudFsmCreateLinkHandler
  dsimp only
  rw [hcreate, hbackoff]
  split_ifs
  · exact ⟨_, _, _, _, rfl⟩
  · exact ⟨_, _, _, _, rfl⟩

theorem cloudFsmConnectHandler_context (env : ConnectEnv) (c : CloudContext) : ∃ link info,
    (cloudFsmConnectHandler env c).2 = { c with link := link, backoffInfo := info } ∨
      (cloudFsmConnectHandler env c).1 = .psk ∧ env.csmLinkError = true ∧
        (cloudFsmConnectHandler env c).2 = cloudSessLinkErrorCallback { c with link := link, backoffInfo := info } := by
  obtain ⟨link, hlink⟩ : ∃ link, (m2mCloudLinkConnect env c).2 = { c with link := link } := by
    unfold m2mCloudLinkConnect
    split_ifs
    · exact ⟨_, rfl⟩
    · exact ⟨_, rfl⟩
  obtain ⟨info, hinfo⟩ := m2mCloudBackoffUpdate_eq env.random env.updated { c with link := link }
  unfold cloudFsmConnectHandler
  by_cases hwait : env.netConnected = false ∨ isM2mCloudBackoffTime env.now c
  · rw [if_pos hwait]
    exact ⟨c.link, c.backoffInfo, .inl rfl⟩
  · rw [if_neg hwait]
    dsimp only
    rw [hlink, hinfo]
    refine ⟨link, info, ?_⟩
    split_ifs with hconnected hcsm
    · exact .inl rfl
    · exact .inr ⟨rfl, hcsm, rfl⟩
    · exact .inl rfl

/-- The states that send a request, with its handler and the state that waits for the response. -/
def FsmState.request : FsmState → Option (CloudHandler × FsmState)
  | .psk => some (.pskReg, .pskWaitResp)
  | .register => some (.registerReg, .registerWaitResp)
  | .login => some (.login, .loginWaitResp)
  | .authCode => some (.authCodeReg, .authCodeWaitResp)
  | .revoke => some (.revoke, .revokeWaitResp)
  | .devInfoSync => some (.devInfoSync, .devInfoSyncWaitResp)
  | .getAuthCode => some (.devId, .getAuthCodeWaitResp)
  | .ecoDevInfoSync => some (.ecoDevInfo, .ecoDevInfoSyncWaitResp)
  | .ecoStateSync => some (.ecoDevState, .ecoStateSyncWaitResp)
  | _ => none

/-- The context that a request is sent from: the key is given up before a new exchange. -/
def CloudContext.beforeRequest (c : CloudContext) : CloudContext :=
  if c.cur = .psk then { c with pskInfo := { c.pskInfo with pskFinish := false } } else c

theorem CloudContext.beforeRequest_settles (c : CloudContext) : Settles c c.beforeRequest ∧ SameLink c c.beforeRequest := by
  unfold beforeRequest
  split_ifs <;> exact ⟨⟨rfl, .inl rfl⟩, rfl, rfl, rfl⟩

theorem fsmHandler_request {env : FsmEnv} {wait : FsmState} (hreq : c.cur.request = some (h, wait)) :
    fsmHandler J K env c = requestHandler J K h wait env.request c.beforeRequest := by
  by_cases hpsk : c.cur = .psk
  · have hhandler : fsmHandler J K env c = cloudFsmPskHandler J K env.request c := by
      unfold fsmHandler
      rw [hpsk]
    rw [hhandler, CloudContext.beforeRequest, if_pos hpsk]
    rw [hpsk] at hreq
    cases hreq
    rfl
  · rw [CloudContext.beforeRequest, if_neg hpsk]
    unfold fsmHandler
    cases hcur : c.cur with
    | psk => exact absurd hcur hpsk
    | _ =>
      rw [hcur] at hreq
      cases hreq <;> rfl

theorem fsmHandler_init {env : FsmEnv} (hcur : c.cur = .init) :
    fsmHandler J K env c = cloudFsmInitHandler env.init c := by
  unfold fsmHandler
  rw [hcur]

theorem fsmHandler_createLink {env : FsmEnv} (hcur : c.cur = .createLink) :
    fsmHandler J K env c = cloudFsmCreateLinkHandler env.create c := by
  unfold fsmHandler
  rw [hcur]

theorem fsmHandler_connect {env : FsmEnv} (hcur : c.cur = .connect) :
    fsmHandler J K env c = cloudFsmConnectHandler env.connect c := by
  unfold fsmHandler
  rw [hcur]

theorem fsmHandler_stays {env : FsmEnv} (hreq : c.cur.request = none) (hinit : c.cur ≠ .init)
    (hcreate : c.cur ≠ .createLink) (hconnect : c.cur ≠ .connect) : fsmHandler J K env c = (c.cur, c) := by
  unfold fsmHandler
  cases hcur : c.cur with
  | init => exact absurd hcur hinit
  | createLink => exact absurd hcur hcreate
  | connect => exact absurd hcur hconnect
  | _ => first | rfl | (rw [hcur] at hreq; cases hreq)

end IotConnect.Cloud
