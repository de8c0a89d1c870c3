import IotConnect.LinkLayer.Process
import IotConnect.LinkLayer.Protection

/-! # Encrypted reports (`linklayer_process.c`, `linklayer_service.c`)

A report is encrypted with the session key if there is one and else with the type of the link layer, which is what
the last frame in the receive cache said in its header. So anyone who can send a frame can choose it: a report of a
service that allows plain text is then sent as it is, and one of a service that does not is not sent. -/
namespace IotConnect.LinkLayer
open Memory Trace
set_option autoImplicit false

/-! ## Reports -/

/-- What a report returns, the type its data was encrypted with or why it was not, and the frames of it. -/
structure Report where
  ret : IotcRet
  encrypted : Except IotcRet LinkLayerEncryptType
  frames : List (List UInt8)

def Report.failed (ret : IotcRet) : Report := ⟨ret, .error ret, []⟩

def rptHead (sendToken : UInt8) (encType : LinkLayerEncryptType) : List UInt8 :=
  [cmdTypeReport, sendToken, 0, 0, 0, encType.value.toUInt8, 0]

def linkLayerReportEncryptCmdData (env : ProcessEnv) (buff : List UInt8) (s : LinkState) : Report × LinkState :=
  if buff = [] then (.failed .errParamInvalid, s)
  else
    let encType := linkLayerGetEncryptType s
    if env.sendMem = false then (.failed .memErrCalloc, s)
    else
      let out : LinkLayerEncryptOut := ⟨fun _ => 0, buff.length + encDataMaxOverhead⟩
      match linkLayerEncryptDataInto (env.encrypt s.keys) buff encType out with
      | .error ret => (.failed ret, s)
      | .ok written =>
        if written.2 = 0 then (.failed .ok, s)
        else
          let (ret, frames) := linkLayerSendBtPkg env.pkgMaxNum env.send (rptHead s.sendToken encType ++ written.bytes)
          (⟨ret, .ok encType, frames⟩, { s with sendToken := s.sendToken + 1 })

/-- `LinkLayerReportSvcDataEnc`, with `CreateAndSendRptCmdData`. -/
def linkLayerReportSvcDataEnc (env : ProcessEnv) (svcs : List BtSvcInfo) (service data : List UInt8) (s : LinkState) :
    Report × LinkState :=
  if data = [] then (.failed .errParamInvalid, s)
  else
    match createRptCmdData env.encodeMem svcs service data (linkLayerGetEncryptType s) with
    | .error ret => (.failed ret, s)
    | .ok rptData => linkLayerReportEncryptCmdData env rptData s

section
variable (env : ProcessEnv) (svcs : List BtSvcInfo) (service data : List UInt8)

theorem linkLayerReportSvcDataEnc_congr {s s' : LinkState}
    (htype : linkLayerGetEncryptType s = linkLayerGetEncryptType s') (htoken : s.sendToken = s'.sendToken)
    (hkeys : s.keys = s'.keys) :
    (linkLayerReportSvcDataEnc env svcs service data s).1 = (linkLayerReportSvcDataEnc env svcs service data s').1 := by
  unfold linkLayerReportSvcDataEnc linkLayerReportEncryptCmdData
  rw [htype, htoken, hkeys]
  split
  · rfl
  split
  · rfl
  split
  · rfl
  dsimp only
  split
  · rfl
  split
  · rfl
  split <;> rfl

theorem createRptCmdData_supports {mem : Bool} {encryptType : LinkLayerEncryptType} {frame : List UInt8}
    (h : createRptCmdData mem svcs service data encryptType = .ok frame) :
    ∃ info, getBtSvcInfoByService svcs service = some info ∧ info.Supports encryptType := by
  unfold createRptCmdData at h
  split at h
  · cases h
  next info hinfo =>
    split at h
    · cases h
    next hcheck => exact ⟨info, hinfo, (svcCheckEncType_ok_iff _ _).mp (not_not.mp hcheck)⟩

theorem linkLayerReportSvcDataEnc_encrypted {s : LinkState} {encType : LinkLayerEncryptType}
    (h : (linkLayerReportSvcDataEnc env svcs service data s).1.encrypted = .ok encType) :
    encType = linkLayerGetEncryptType s ∧
      ∃ info, getBtSvcInfoByService svcs service = some info ∧ info.Supports encType := by
  unfold linkLayerReportSvcDataEnc linkLayerReportEncryptCmdData at h
  split at h
  · cases h
  split at h
  · cases h
  next frame hcreate =>
    split at h
    · cases h
    dsimp only at h
    split at h
    · cases h
    split at h
    · cases h
    split at h
    · cases h
    · cases h
      exact ⟨rfl, createRptCmdData_supports svcs service data hcreate⟩

end

/-! ## What a frame does to the encryption type -/

/-- The type that a frame sets: that of its header, if the receive cache takes the frame. -/
def announced (s : LinkState) (e : ProcessEnv × List UInt8) : Option LinkLayerEncryptType :=
  if pkgHeadLen < e.2.length ∧ (insertFrame e.1.recv e.2 s.pkgList).1 = .ok then
    encryptHandler (parsePkgHead e.2).encryptType
  else none

theorem processStep_sets (svcs : List BtSvcInfo) (s : LinkState) (e : ProcessEnv × List UInt8) :
    (processStep svcs s e).encryptType = (announced s e).getD s.encryptType ∧
      (processStep svcs s e).sendToken = s.sendToken := by
  unfold processStep linkLayerProcessBtData announced
  by_cases hlen : pkgHeadLen < e.2.length
  · rw [if_neg (not_not.mpr hlen)]
    dsimp only
    by_cases hret : (insertFrame e.1.recv e.2 s.pkgList).1 = .ok
    · rw [if_neg (not_not.mpr hret), if_pos ⟨hlen, hret⟩]
      split
      · next hhandler =>
        rw [hhandler]
        exact ⟨rfl, rfl⟩
      · next hhandler =>
        rw [hhandler]
        exact ⟨rfl, rfl⟩
    · rw [if_pos hret, if_neg fun h => hret h.2]
      exact ⟨rfl, rfl⟩
  · rw [if_pos hlen, if_neg fun h => hlen h.1]
    exact ⟨rfl, rfl⟩

/-! ## Downgrades -/

def Report.EmitsPlain (r : Report) : Prop := r.encrypted = .ok .unencrypted ∧ r.frames ≠ []

def Report.GoesOut (r : Report) : Prop := (∃ encType, r.encrypted = .ok encType) ∧ r.frames ≠ []

section
variable (env : ProcessEnv) (svcs : List BtSvcInfo) (service data : List UInt8)

/-- A report is not sent as plain text, and it is encrypted, or fails, as in another state. -/
def Undisturbed (s s' : LinkState) : Prop :=
  (linkLayerReportSvcDataEnc env svcs service data s').1.encrypted =
      (linkLayerReportSvcDataEnc env svcs service data s).1.encrypted ∧
    ¬ (linkLayerReportSvcDataEnc env svcs service data s').1.EmitsPlain

/-- After any number of the frames a report is as it would have been without them. -/
def ReportsKept (s : LinkState) (es : List (ProcessEnv × List UInt8)) : Prop :=
  Undisturbed env svcs service data s s ∧
    Along (processStep svcs) (fun s' e => Undisturbed env svcs service data s (processStep svcs s' e)) s es

def Shielded (s : LinkState) : Prop :=
  s.keys.sessKeyExist = true ∨ s.encryptType ≠ .unencrypted ∨
    ∀ info, getBtSvcInfoByService svcs service = some info → ¬ info.Supports .unencrypted

/-- A frame after which the link layer encrypts with the type it had: a session key stays, or the type it stood for is
that of the link layer. -/
def TypeKept (s : LinkState) (e : ProcessEnv × List UInt8) : Prop :=
  if s.keys.sessKeyExist then
    (keysAfter svcs s e).sessKeyExist = true ∨ (announced s e).getD s.encryptType = .sesskey
  else if (keysAfter svcs s e).sessKeyExist then s.encryptType = .sesskey
  else ∀ encType, announced s e = some encType → encType = s.encryptType

/-- The callback that the frame gets to leaves the keys as they are, and without a session key the frame names the type
of the link layer. -/
def Harmless (s : LinkState) (e : ProcessEnv × List UInt8) : Prop :=
  keysAfter svcs s e = s.keys ∧
    (s.keys.sessKeyExist = true ∨ ∀ encType, announced s e = some encType → encType = s.encryptType)

theorem announced_getD_eq_iff (s : LinkState) (e : ProcessEnv × List UInt8) :
    (announced s e).getD s.encryptType = s.encryptType ↔
      ∀ encType, announced s e = some encType → encType = s.encryptType := by
  cases announced s e with
  | none => exact ⟨fun _ encType h => (by cases h), fun _ => rfl⟩
  | some encType => exact ⟨fun h encType' heq => Option.some.inj heq ▸ h, fun h => h encType rfl⟩

theorem linkLayerGetEncryptType_step (s : LinkState) (e : ProcessEnv × List UInt8) :
    linkLayerGetEncryptType (processStep svcs s e) =
      if (keysAfter svcs s e).sessKeyExist then .sesskey else (announced s e).getD s.encryptType := by
  rw [← (processStep_sets svcs s e).1]
  rfl

theorem typeKept_iff (s : LinkState) (e : ProcessEnv × List UInt8) :
    TypeKept svcs s e ↔ linkLayerGetEncryptType (processStep svcs s e) = linkLayerGetEncryptType s := by
  rw [linkLayerGetEncryptType_step, linkLayerGetEncryptType, TypeKept, ← announced_getD_eq_iff]
  by_cases hkey : s.keys.sessKeyExist = true
  · by_cases hafter : (keysAfter svcs s e).sessKeyExist = true
    · simp only [hkey, hafter, if_true, true_or]
    · simp only [hkey, hafter, if_true, Bool.false_eq_true, if_false, false_or]
  · by_cases hafter : (keysAfter svcs s e).sessKeyExist = true
    · simp only [hkey, hafter, if_true, Bool.false_eq_true, if_false]
      exact eq_comm
    · simp only [hkey, hafter, Bool.false_eq_true, if_false]

def SameReports (s s' : LinkState) : Prop :=
  linkLayerGetEncryptType s' = linkLayerGetEncryptType s ∧ s'.sendToken = s.sendToken ∧ s'.keys = s.keys

variable {env svcs service} {s s' : LinkState}

theorem SameReports.step (h : SameReports s s') {e : ProcessEnv × List UInt8} (he : Harmless svcs s' e) :
    SameReports s (processStep svcs s' e) := by
  refine ⟨?_, (processStep_sets svcs s' e).2.trans h.2.1, he.1.trans h.2.2⟩
  rw [← h.1, linkLayerGetEncryptType_step, he.1, linkLayerGetEncryptType]
  rcases he.2 with hkey | hannounced
  · rw [if_pos hkey, if_pos hkey]
  · rw [(announced_getD_eq_iff s' e).mpr hannounced]

variable {data} in
theorem SameReports.undisturbed (h : SameReports s s')
    (hs : Undisturbed env svcs service data s s) : Undisturbed env svcs service data s s' := by
  unfold Undisturbed
  rw [linkLayerReportSvcDataEnc_congr env svcs service data h.1 h.2.1 h.2.2]
  exact hs

theorem Shielded.undisturbed (h : Shielded svcs service s) : Undisturbed env svcs service data s s := by
  refine ⟨rfl, fun hplain => ?_⟩
  obtain ⟨htype, info, hinfo, hsupp⟩ := linkLayerReportSvcDataEnc_encrypted env svcs service data hplain.1
  unfold linkLayerGetEncryptType at htype
  rcases h with hkey | hne | hpolicy
  · rw [if_pos hkey] at htype
    cases htype
  · split at htype
    · cases htype
    · exact hne htype.symm
  · exact hpolicy info hinfo hsupp

variable {data} (hout : (linkLayerReportSvcDataEnc env svcs service data s).1.GoesOut)
include hout

theorem getEncryptType_of_undisturbed (h : Undisturbed env svcs service data s s') :
    linkLayerGetEncryptType s' = linkLayerGetEncryptType s := by
  obtain ⟨encType, hencrypted⟩ := hout.1
  rw [← (linkLayerReportSvcDataEnc_encrypted env svcs service data hencrypted).1,
    ← (linkLayerReportSvcDataEnc_encrypted env svcs service data (h.1.trans hencrypted)).1]

theorem shielded_of_undisturbed (hs : Undisturbed env svcs service data s s) : Shielded svcs service s := by
  obtain ⟨encType, hencrypted⟩ := hout.1
  obtain ⟨htype, -⟩ := linkLayerReportSvcDataEnc_encrypted env svcs service data hencrypted
  unfold linkLayerGetEncryptType at htype
  by_cases hkey : s.keys.sessKeyExist = true
  · exact .inl hkey
  · rw [if_neg hkey] at htype
    refine .inr (.inl fun hplain => hs.2 ⟨?_, hout.2⟩)
    rw [hencrypted, htype, hplain]

omit hout
variable (env svcs service data)

theorem encrypted_reports_kept (s : LinkState) (es : List (ProcessEnv × List UInt8)) :
    (Shielded svcs service s ∧ Along (processStep svcs) (Harmless svcs) s es →
      ReportsKept env svcs service data s es) ∧
    ((linkLayerReportSvcDataEnc env svcs service data s).1.GoesOut → ReportsKept env svcs service data s es →
      Shielded svcs service s ∧ Along (processStep svcs) (TypeKept svcs) s es) := by
  constructor
  · rintro ⟨hshield, halong⟩
    have hs : Undisturbed env svcs service data s s := hshield.undisturbed data
    have hkeep : ∀ s' e, Harmless svcs s' e → SameReports s s' → SameReports s (processStep svcs s' e) :=
      fun s' e he h => h.step he
    exact ⟨hs, along_invariant hkeep (fun s' e he h => (h.step he).undisturbed hs) halong ⟨rfl, rfl, rfl⟩⟩
  · rintro hout ⟨hs, halong⟩
    -- what carries the induction is that the type is that of the first state
    have hkeep : ∀ s' e, Undisturbed env svcs service data s (processStep svcs s' e) →
        linkLayerGetEncryptType s' = linkLayerGetEncryptType s →
          linkLayerGetEncryptType (processStep svcs s' e) = linkLayerGetEncryptType s :=
      fun s' e he _ => getEncryptType_of_undisturbed hout he
    exact ⟨shielded_of_undisturbed hout hs, along_invariant hkeep
      (fun s' e he h => (typeKept_iff svcs s' e).mpr ((hkeep s' e he h).trans h.symm)) halong rfl⟩

end

/-! ### A frame that asks for plain text -/

/-- The first of two fragments, with the type `ENC_TYPE_UNENCRYPTED`. -/
def plainFragment : List UInt8 := [0, 9, 2, 0, 0, 0, 0] ++ List.replicate 153 0

def sampleSvcs : List BtSvcInfo := [⟨⟨[97], by decide, by decide⟩, 3, none, none, none⟩]

def sampleProcessEnv : ProcessEnv where
  recv := ⟨0, 0, true, true⟩
  cipher := transparentEnv.toCipherEnv
  keys := fun _ keys => keys
  encodeMem := true
  sendMem := true
  pkgMaxNum := 16
  send := some fun _ _ => 0

def sampleLinkState (sessKeyExist : Bool) : LinkState :=
  ⟨PkgList.init, .speke, 0, { transparentEnv.toEncryptKeys with sessKeyExist := sessKeyExist }⟩

theorem report_kept_with_session_key :
    ReportsKept sampleProcessEnv sampleSvcs [97] [7, 8] (sampleLinkState true) [(sampleProcessEnv, plainFragment)] :=
  (encrypted_reports_kept _ _ _ _ _ _).1 ⟨.inl rfl, ⟨rfl, .inl rfl⟩, trivial⟩

theorem report_downgraded :
    (linkLayerReportSvcDataEnc sampleProcessEnv sampleSvcs [97] [7, 8] (sampleLinkState false)).1.encrypted =
        .ok .speke ∧
      ¬ ReportsKept sampleProcessEnv sampleSvcs [97] [7, 8] (sampleLinkState false)
        [(sampleProcessEnv, plainFragment)] := by
  refine ⟨by decide, fun h => ?_⟩
  exact h.2.1.2 ⟨by decide +kernel, by decide +kernel⟩

end IotConnect.LinkLayer
