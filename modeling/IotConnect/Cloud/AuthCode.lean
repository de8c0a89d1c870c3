import IotConnect.Cloud.Context

/-! # The response with the authentication code (`M2mCloudParseAuthCodeResponse` of `m2m_cloud_authcode.c`)

The code, its id and its lifetime are written into the context one after another, before it is known that all of them
are there and whatever the decoder made of them. The parsed object is released where the function gives up, and not
where it succeeds. -/
namespace IotConnect.Cloud
open Bytes
set_option autoImplicit false

variable (J : JsonAdapter)

/-! ## All or nothing -/

/-- The string is there and stands for exactly the bytes. -/
def CarriesHex (json : J.Obj) (key : String) (bytes : List UInt8) : Prop :=
  ∃ text, (J.getObj json key).bind J.str = some text ∧ text.length = 2 * bytes.length ∧ unhexPairs text = some bytes

/-- The response carries the record, all of it well formed. -/
def CarriesAuthCode (payload : List UInt8) (info : AuthCodeInfo) : Prop :=
  ∃ json, J.parseWithLen payload = some json ∧ CarriesHex J json "authCode" info.authCode ∧
    CarriesHex J json "authCodeId" info.authCodeId ∧ carriedNum J json "timeout" = some info.timeout

structure AllOrNothing (c : CloudContext) (payload : List UInt8) : Prop where
  taken : (m2mCloudParseAuthCodeResponse J c payload).ret = .ok → (m2mCloudParseAuthCodeResponse J c payload).errcode = 0 →
    CarriesAuthCode J payload (m2mCloudParseAuthCodeResponse J c payload).context.authCodeInfo
  refused : ¬ ((m2mCloudParseAuthCodeResponse J c payload).ret = .ok ∧ (m2mCloudParseAuthCodeResponse J c payload).errcode = 0) →
    (m2mCloudParseAuthCodeResponse J c payload).context.authCodeInfo = c.authCodeInfo
  released : (m2mCloudParseAuthCodeResponse J c payload).released = (m2mCloudParseAuthCodeResponse J c payload).parsed

/-- The response ends the function before it succeeds, and what was decoded until then is what was there already. -/
def EndsUntouched (info : AuthCodeInfo) (payload : List UInt8) : Prop :=
  ∀ json, respErrcode J payload = .ok (json, 0) →
    ∀ authcodeStr, utilsJsonGetString J json "authCode" (2 * (16 + 1) + 1) = .ok authcodeStr →
      unhexifyInto authcodeStr info.authCode = info.authCode ∧
      ∀ authcodeIdStr, utilsJsonGetString J json "authCodeId" (2 * (16 + 1) + 1) = .ok authcodeIdStr →
        unhexifyInto authcodeIdStr info.authCodeId = info.authCodeId ∧ ∃ ret, utilsJsonGetNum J json "timeout" = .error ret

section
variable {J} {c c' : CloudContext} {payload : List UInt8} {ret : IotcRet} {errcode : Int} {n : ℕ}

theorem allOrNothing_refused (hr : m2mCloudParseAuthCodeResponse J c payload = ⟨ret, errcode, c', n, n⟩)
    (hno : ¬ (ret = .ok ∧ errcode = 0)) : AllOrNothing J c payload ↔ c'.authCodeInfo = c.authCodeInfo := by
  constructor
  · intro h
    have hrefused := h.refused
    rw [hr] at hrefused
    exact hrefused hno
  · intro hsame
    refine ⟨?_, ?_, ?_⟩ <;> rw [hr]
    · exact fun hret hcode => absurd ⟨hret, hcode⟩ hno
    · exact fun _ => hsame

theorem allOrNothing_kept (hr : m2mCloudParseAuthCodeResponse J c payload = ⟨ret, errcode, c, n, n⟩)
    (hno : ¬ (ret = .ok ∧ errcode = 0)) : AllOrNothing J c payload := (allOrNothing_refused hr hno).mpr rfl

theorem not_allOrNothing_unreleased (hr : m2mCloudParseAuthCodeResponse J c payload = ⟨ret, errcode, c', 1, 0⟩) :
    ¬ AllOrNothing J c payload := by
  intro h
  have hreleased := h.released
  rw [hr] at hreleased
  exact Nat.zero_ne_one hreleased

end

/-- For every context and payload: the record is taken as a whole or left alone, and the object released once, exactly
when the function ends before it succeeds and has decoded nothing new until then. -/
theorem allOrNothing_iff (c : CloudContext) (payload : List UInt8) :
    AllOrNothing J c payload ↔ EndsUntouched J c.authCodeInfo payload := by
  by_cases hempty : payload = []
  · have hcode : respErrcode J payload = .error ⟨.errParamInvalid, IotcRet.errParamInvalid_ne_ok⟩ := if_pos hempty
    refine iff_of_true (allOrNothing_kept (if_pos hempty) (by decide)) fun json hok => ?_
    rw [hcode] at hok
    cases hok
  have hr : m2mCloudParseAuthCodeResponse J c payload = _ := if_neg hempty
  have hcode : respErrcode J payload = _ := if_neg hempty
  unfold EndsUntouched
  rw [hcode]
  cases hparse : J.parseWithLen payload with
  | none =>
    rw [hparse] at hr
    exact iff_of_true (allOrNothing_kept hr (by decide)) fun json hok => by cases hok
  | some json =>
    simp only [hparse] at hr
    dsimp only
    cases hnum : utilsJsonGetNum J json "errcode" with
    | error ret =>
      simp only [hnum] at hr
      exact iff_of_true (allOrNothing_kept hr fun h => ret.property h.1) fun json hok => by cases hok
    | ok errcode =>
      simp only [hnum] at hr
      by_cases hne : errcode ≠ 0
      · rw [if_pos hne] at hr
        refine iff_of_true (allOrNothing_kept hr fun h => hne h.2) fun json hok => ?_
        cases hok
        exact absurd rfl hne
      rw [if_neg hne] at hr
      cases not_not.mp hne
      simp only [Except.ok.injEq, Prod.mk.injEq, and_true, forall_eq']
      cases hstr : utilsJsonGetString J json "authCode" (2 * (16 + 1) + 1) with
      | error ret =>
        simp only [hstr] at hr
        exact iff_of_true (allOrNothing_kept hr fun h => ret.property h.1) fun text hok => by cases hok
      | ok authcodeStr =>
        simp only [hstr] at hr
        simp only [Except.ok.injEq, forall_eq']
        cases hid : utilsJsonGetString J json "authCodeId" (2 * (16 + 1) + 1) with
        | error ret =>
          simp only [hid] at hr
          rw [allOrNothing_refused hr fun h => ret.property h.1, and_iff_left fun text hok => by cases hok]
          exact ⟨fun h => congrArg AuthCodeInfo.authCode h, fun h => by rw [h]⟩
        | ok authcodeIdStr =>
          simp only [hid] at hr
          simp only [Except.ok.injEq, forall_eq']
          cases htime : utilsJsonGetNum J json "timeout" with
          | error ret =>
            simp only [htime] at hr
            rw [allOrNothing_refused hr fun h => ret.property h.1]
            constructor
            · intro h
              exact ⟨congrArg AuthCodeInfo.authCode h, congrArg AuthCodeInfo.authCodeId h, ret, rfl⟩
            · rintro ⟨hcode, hcodeId, -⟩
              rw [hcode, hcodeId]
          | ok timeout =>
            simp only [htime] at hr
            refine iff_of_false (not_allOrNothing_unreleased hr) ?_
            rintro ⟨-, -, ret, hret⟩
            cases hret

/-- A response with everything in it. -/
def sampleAuthCodeJson : JsonAdapter := .ofParser fun _ => some (.obj [(ascii "errcode", .num 0),
  (ascii "authCode", .str (List.replicate 32 48)), (ascii "authCodeId", .str (List.replicate 32 48)),
  (ascii "timeout", .num 3600)])

theorem authCode_unreleased : ¬ AllOrNothing sampleAuthCodeJson .start [1] := by
  intro h
  exact absurd h.released (by decide)

end IotConnect.Cloud
