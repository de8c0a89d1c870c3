import IotConnect.LinkLayer.Process

/-! # Rejected frames and the receive cache

`LinkLayerProcessBtData` hands a frame to the cache before `LinkLayerSetEncryptType` looks at its encryption type. A
frame that the insertion refuses leaves the cache as it is, except for entries that have timed out. A frame with an
unknown encryption type is refused after its fragment was recorded. -/
namespace IotConnect.LinkLayer
open Trace
set_option autoImplicit false

/-! ## One fragment and the cache -/

/-- The cache without its timed-out entries, if the frame comes so far that they are removed. -/
def clearedFor (env : RecvEnv) (buff : List UInt8) (l : PkgList) : PkgList :=
  let pkgHead := parsePkgHead buff
  if pkgHeadLen < buff.length ∧
      checkFragment pkgHead.pkgNum.toNat pkgHead.pkgIdx.toNat (buff.drop pkgHeadLen) = .ok then
    clearTimeoutPkg env.clearTime l
  else l

def frameEntry (env : RecvEnv) (buff : List UInt8) (l : PkgList) : Option CachePkgData :=
  findPkgByToken (parsePkgHead buff).token (clearTimeoutPkg env.clearTime l)

/-- The fragment is accepted, and was not there before. -/
def Fresh (env : RecvEnv) (buff : List UInt8) (l : PkgList) : Prop :=
  (insertFrame env buff l).1 = .ok ∧
    ∀ p, frameEntry env buff l = some p → p.recvMask.testBit (parsePkgHead buff).pkgIdx.toNat = false

/-- The entry has as many fragments as it can take. No message comes to that, since it is merged when it is complete. -/
def Overfull (env : RecvEnv) (buff : List UInt8) (l : PkgList) : Prop :=
  ∃ p, frameEntry env buff l = some p ∧ p.pkgNum ≤ p.curSize

/-- What an insertion makes of an entry: nothing, or one fragment more. -/
theorem insertIntoPkg_cases (p : CachePkgData) (pkgIdx : ℕ) (data : List UInt8) :
    (insertIntoPkg p pkgIdx data).2 = p ∧
        ((insertIntoPkg p pkgIdx data).1 = .ok → p.recvMask.testBit pkgIdx = true) ∨
      p.recvMask.testBit pkgIdx = false ∧ (insertIntoPkg p pkgIdx data).1 = .ok ∧
        (insertIntoPkg p pkgIdx data).2.token = p.token ∧ (insertIntoPkg p pkgIdx data).2.pkgNum = p.pkgNum ∧
        (insertIntoPkg p pkgIdx data).2.curSize = p.curSize + 1 ∧
        (insertIntoPkg p pkgIdx data).2.curDataLen = p.curDataLen + data.length := by
  unfold insertIntoPkg
  by_cases hbit : p.recvMask.testBit pkgIdx = true
  · rw [if_pos hbit]
    exact .inl ⟨rfl, fun _ => hbit⟩
  rw [if_neg hbit]
  dsimp only
  split
  · exact .inl ⟨rfl, fun h => by cases h⟩
  split
  · exact .inl ⟨rfl, fun h => by cases h⟩
  · exact .inr ⟨Bool.eq_false_iff.mpr hbit, rfl, rfl, rfl, rfl, rfl⟩

/-- The first fragment of a message always fits the buffer that is allocated for it. -/
theorem insertIntoPkg_newPkg {pkgNum pkgIdx : ℕ} {data : List UInt8} (token : UInt8) (savedTime : UInt32)
    (h : checkFragment pkgNum pkgIdx data = .ok) :
    (insertIntoPkg (newPkg token pkgNum savedTime) pkgIdx data).1 = .ok := by
  obtain ⟨hpos, -, -, hidx, hmax, -⟩ := checkFragment_ok h
  have hslot : (pkgIdx + 1) * recvSinglePkgDataMaxSize ≤ pkgNum * recvSinglePkgDataMaxSize :=
    Nat.mul_le_mul_right _ hidx
  rw [Nat.succ_mul] at hslot
  unfold insertIntoPkg
  have hcap : (newPkg token pkgNum savedTime).mergeBuffCap = pkgNum * recvSinglePkgDataMaxSize := rfl
  rw [if_neg (by simp [newPkg])]
  dsimp only
  rw [if_neg (by omega), memcpyS_of_le _ _ _ _ (by omega) (by omega)]

theorem replacePkg_self {token : UInt8} {p : CachePkgData} {l : PkgList} (h : findPkgByToken token l = some p) :
    replacePkg token p l = l := by
  have hmap := Keyed.map_replaceFirst (f := id) h rfl
  rw [List.map_id, List.map_id] at hmap
  rw [replacePkg, hmap]

section
variable {env : RecvEnv} {buff : List UInt8} {l : PkgList}

theorem insertFrame_not_fresh (hlen : pkgHeadLen < buff.length) (h : ¬ Fresh env buff l) :
    (insertFrame env buff l).2 = clearedFor env buff l := by
  unfold Fresh frameEntry at h
  unfold insertFrame clearedFor at *
  dsimp only at h ⊢
  unfold linkLayerRecvPkgInsert at *
  by_cases hcheck : checkFragment (parsePkgHead buff).pkgNum.toNat (parsePkgHead buff).pkgIdx.toNat
      (buff.drop pkgHeadLen) = .ok
  swap
  · rw [if_pos hcheck, if_neg fun h => hcheck h.2]
  rw [if_neg (not_not.mpr hcheck)] at h ⊢
  rw [if_pos ⟨hlen, hcheck⟩]
  dsimp only at h ⊢
  cases hfind : findPkgByToken (parsePkgHead buff).token (clearTimeoutPkg env.clearTime l) with
  | some p =>
    rw [hfind] at h
    dsimp only at h ⊢
    obtain ⟨hsame, -⟩ | ⟨hbit, hok, -⟩ := insertIntoPkg_cases p (parsePkgHead buff).pkgIdx.toNat (buff.drop pkgHeadLen)
    · rw [hsame]
      exact replacePkg_self hfind
    · exact absurd ⟨hok, fun q hq => by cases hq; exact hbit⟩ h
  | none =>
    rw [hfind] at h
    dsimp only at h ⊢
    split
    · rfl
    next hsize =>
    split
    · rfl
    next hmem =>
    rw [if_neg hsize, if_neg hmem] at h
    exact absurd ⟨insertIntoPkg_newPkg _ _ hcheck, nofun⟩ h

/-- The entry of a fresh fragment, behind the insertion. -/
structure Recorded (env : RecvEnv) (buff : List UInt8) (l : PkgList) (p : CachePkgData) : Prop where
  found : findPkgByToken (parsePkgHead buff).token (insertFrame env buff l).2 = some p
  overfull : p.pkgNum < p.curSize ↔ Overfull env buff l
  some_data : 0 < p.curDataLen

theorem insertFrame_fresh (hlen : pkgHeadLen < buff.length) (h : Fresh env buff l) :
    (insertFrame env buff l).2 ≠ clearedFor env buff l ∧ ∃ p, Recorded env buff l p := by
  suffices hcases : ∃ p, (insertFrame env buff l).2 ≠ clearedFor env buff l ∧
      findPkgByToken (parsePkgHead buff).token (insertFrame env buff l).2 = some p ∧
      (p.pkgNum < p.curSize ↔ Overfull env buff l) ∧ 0 < p.curDataLen by
    obtain ⟨p, hne, hfound, hfull, hdata⟩ := hcases
    exact ⟨hne, p, hfound, hfull, hdata⟩
  obtain ⟨hok, hnew⟩ := h
  unfold frameEntry at hnew
  unfold insertFrame clearedFor Overfull frameEntry at *
  dsimp only at hok ⊢
  unfold linkLayerRecvPkgInsert at *
  by_cases hcheck : checkFragment (parsePkgHead buff).pkgNum.toNat (parsePkgHead buff).pkgIdx.toNat
      (buff.drop pkgHeadLen) = .ok
  swap
  · rw [if_pos hcheck] at hok
    exact absurd hok hcheck
  obtain ⟨hpos, hnum, -⟩ := checkFragment_ok hcheck
  rw [if_neg (not_not.mpr hcheck)] at hok ⊢
  rw [if_pos ⟨hlen, hcheck⟩]
  dsimp only at hok ⊢
  cases hfind : findPkgByToken (parsePkgHead buff).token (clearTimeoutPkg env.clearTime l) with
  | some p =>
    rw [hfind] at hok
    dsimp only at hok ⊢
    have hbit := hnew p hfind
    obtain ⟨-, hdup⟩ | ⟨-, -, htoken, hpkgNum, hcurSize, hcurDataLen⟩ :=
      insertIntoPkg_cases p (parsePkgHead buff).pkgIdx.toNat (buff.drop pkgHeadLen)
    · rw [hdup hok] at hbit
      cases hbit
    have hmatch : (p.token == (parsePkgHead buff).token) = true := by
      rw [findPkgByToken] at hfind
      have hfound := List.find?_some hfind
      exact hfound
    have hsome : ((clearTimeoutPkg env.clearTime l).pkgs.find? fun q => q.token == (parsePkgHead buff).token).isSome =
        true := by
      rw [findPkgByToken] at hfind
      rw [hfind]
      rfl
    rw [← htoken] at hmatch
    have hreplaced := Keyed.find?_replaceFirst_self hsome hmatch
    refine ⟨_, fun heq => ?_, hreplaced, ?_, by omega⟩
    · rw [← heq, findPkgByToken, replacePkg, hreplaced] at hfind
      rw [Option.some.inj hfind] at hcurSize
      omega
    · simp only [Option.some.injEq, exists_eq_left']
      omega
  | none =>
    rw [hfind] at hok
    dsimp only at hok ⊢
    split
    · next hsize =>
      rw [if_pos hsize] at hok
      cases hok
    next hsize =>
    split
    · next hmem =>
      rw [if_neg hsize, if_pos hmem] at hok
      cases hok
    obtain ⟨-, hdup⟩ | ⟨-, -, htoken, hpkgNum, hcurSize, hcurDataLen⟩ :=
      insertIntoPkg_cases (newPkg (parsePkgHead buff).token (parsePkgHead buff).pkgNum.toNat env.saveTime)
        (parsePkgHead buff).pkgIdx.toNat (buff.drop pkgHeadLen)
    · have hbit := hdup (insertIntoPkg_newPkg _ _ hcheck)
      simp [newPkg] at hbit
    refine ⟨_, fun heq => ?_, ?_, ?_, by rw [hcurDataLen]; omega⟩
    · have hsizes := congrArg PkgList.size heq
      dsimp only at hsizes
      omega
    · rw [findPkgByToken] at hfind ⊢
      rw [List.find?_append, hfind, Option.none_or, List.find?_singleton, htoken]
      simp [newPkg]
    · rw [hpkgNum, hcurSize]
      simp only [reduceCtorEq, false_and, exists_false, iff_false, newPkg]
      omega

end

/-! ## Frames -/

/-- A frame that is refused before a message was complete leaves of the cache what is not timed out. -/
def RejectionKept (svcs : List BtSvcInfo) (s : LinkState) (e : ProcessEnv × List UInt8) : Prop :=
  let (processed, s') := linkLayerProcessBtData e.1 svcs e.2 s
  processed.ret ≠ .ok → processed.decryption = none → s'.pkgList = clearedFor e.1.recv e.2 s.pkgList

/-- A frame that brings a new fragment has a known encryption type. -/
def TypeKnown (s : LinkState) (e : ProcessEnv × List UInt8) : Prop :=
  pkgHeadLen < e.2.length → Fresh e.1.recv e.2 s.pkgList →
    (encryptHandler (parsePkgHead e.2).encryptType).isSome = true ∧ ¬ Overfull e.1.recv e.2 s.pkgList

section
variable {env : ProcessEnv} {svcs : List BtSvcInfo} {buff : List UInt8} {encryptType : LinkLayerEncryptType}
  {keys : EncryptKeys} {l : PkgList}

theorem mergePkgs_none {token : UInt8} (h : (linkLayerRecvMergePkgs token l).2.1 = none) :
    (linkLayerRecvMergePkgs token l).2.2 = l := by
  unfold linkLayerRecvMergePkgs at *
  dsimp only at *
  split_ifs at * with hcheck
  · cases hfind : findPkgByToken token l with
    | none => rfl
    | some p =>
      rw [hfind] at h
      dsimp only at h ⊢
      by_cases hempty : p.curDataLen = 0
      · rw [if_pos hempty]
      · rw [if_neg hempty] at h
        cases h
  · rfl

theorem processPkgs_incomplete (h : (processPkgs env svcs buff encryptType keys l).1.decryption = none) :
    (processPkgs env svcs buff encryptType keys l).2 = l := by
  unfold processPkgs at *
  dsimp only at *
  split_ifs at * with hcheck
  swap
  · rfl
  have hsame := @mergePkgs_none l (parsePkgHead buff).token
  revert h hsame
  rcases linkLayerRecvMergePkgs (parsePkgHead buff).token l with ⟨ret, _ | mergedBuff, l'⟩
  · exact fun _ hsame => hsame rfl
  · dsimp only
    split
    · exact fun h => by cases h
    · exact fun h => by cases h

variable {p : CachePkgData} (hfind : findPkgByToken (parsePkgHead buff).token l = some p)
include hfind

theorem processPkgs_overfull (hfull : p.pkgNum < p.curSize) :
    processPkgs env svcs buff encryptType keys l = (.early .bleLlErrPkgnum, l) := by
  have hcheck : linkLayerRecvCompleteCheck (parsePkgHead buff).token l = (.bleLlErrPkgnum, false) := by
    unfold linkLayerRecvCompleteCheck
    rw [hfind]
    dsimp only
    rw [if_neg (by omega), if_neg (by omega)]
  rw [processPkgs, hcheck]
  exact if_pos (by decide)

theorem processPkgs_of_room (hroom : p.curSize ≤ p.pkgNum) (hdata : 0 < p.curDataLen) :
    (processPkgs env svcs buff encryptType keys l).1.ret = .ok ∨
      (processPkgs env svcs buff encryptType keys l).1.decryption ≠ none := by
  have hcheck : linkLayerRecvCompleteCheck (parsePkgHead buff).token l = (.ok, decide (p.curSize = p.pkgNum)) := by
    unfold linkLayerRecvCompleteCheck
    rw [hfind]
    dsimp only
    split_ifs with hcomplete hless
    · rw [decide_eq_true hcomplete]
    · rw [decide_eq_false hcomplete]
    · omega
  unfold processPkgs linkLayerRecvMergePkgs
  rw [hcheck, hfind]
  dsimp only
  by_cases hcomplete : p.curSize = p.pkgNum
  · rw [decide_eq_true hcomplete, if_neg (by decide), if_neg (by decide), if_neg (by omega)]
    refine .inr ?_
    dsimp only
    split <;> simp
  · rw [decide_eq_false hcomplete, if_pos (by decide)]
    exact .inl rfl

end

theorem rejectionKept_iff (svcs : List BtSvcInfo) (s : LinkState) (e : ProcessEnv × List UInt8) :
    RejectionKept svcs s e ↔ TypeKnown s e := by
  obtain ⟨env, buff⟩ := e
  unfold RejectionKept TypeKnown linkLayerProcessBtData
  dsimp only
  by_cases hlen : pkgHeadLen < buff.length
  swap
  · rw [if_pos hlen]
    refine ⟨fun _ h => absurd h hlen, fun _ _ _ => ?_⟩
    rw [clearedFor, if_neg fun h => hlen h.1]
  rw [if_neg (not_not.mpr hlen)]
  by_cases hfresh : Fresh env.recv buff s.pkgList
  · obtain ⟨haltered, p, hp⟩ := insertFrame_fresh hlen hfresh
    rw [if_neg (not_not.mpr hfresh.1)]
    cases htype : encryptHandler (parsePkgHead buff).encryptType with
    | none =>
      refine ⟨fun h => absurd (h nofun rfl) haltered, fun h => ?_⟩
      exact absurd (h hlen hfresh).1 Bool.false_ne_true
    | some encryptType =>
      dsimp only
      by_cases hfull : Overfull env.recv buff s.pkgList
      · rw [processPkgs_overfull hp.found (hp.overfull.mpr hfull)]
        exact ⟨fun h => absurd (h nofun rfl) haltered, fun h => absurd hfull (h hlen hfresh).2⟩
      · have hroom := mt hp.overfull.mp hfull
        refine ⟨fun _ _ _ => ⟨rfl, hfull⟩, fun _ hret hnone => ?_⟩
        rcases processPkgs_of_room hp.found (Nat.le_of_not_lt hroom) hp.some_data with hok | hsome
        · exact absurd hok hret
        · exact absurd hnone hsome
  · have hsame := insertFrame_not_fresh hlen hfresh
    refine ⟨fun _ _ h => absurd h hfresh, fun _ => ?_⟩
    split
    · exact fun _ _ => hsame
    split
    · exact fun _ _ => hsame
    · intro _ hnone
      rw [processPkgs_incomplete hnone]
      exact hsame

/-- In a sequence of frames, every frame that is refused before a message is complete leaves the cache as it is,
exactly if no frame with a new fragment has an unknown encryption type. -/
theorem rejections_kept_iff (svcs : List BtSvcInfo) (s : LinkState) (es : List (ProcessEnv × List UInt8)) :
    Along (processStep svcs) (RejectionKept svcs) s es ↔ Along (processStep svcs) TypeKnown s es :=
  along_step_iff (fun _ _ _ (h : True) => h) (fun s e _ => rejectionKept_iff svcs s e) trivial es

def plainEnv : ProcessEnv where
  recv := ⟨0, 0, true, true⟩
  cipher := ⟨.error .error, fun _ _ _ => .error .error, fun _ _ _ _ => .error .error, fun _ => true⟩
  keys := fun _ keys => keys
  encodeMem := true
  sendMem := true
  pkgMaxNum := 16
  send := none

def plainState : LinkState := ⟨PkgList.init, .unencrypted, 0, ⟨none, false, none, none, none, none⟩⟩

/-- A frame of a message of two fragments with the encryption type `9` is refused, and occupies the only slot. -/
def strangeFrame : List UInt8 := [0, 7, 2, 1, 0, 9, 0, 1]

theorem strange_frame_recorded : (linkLayerProcessBtData plainEnv [] strangeFrame plainState).1.ret = .bleLlErrEncryptType ∧
    ¬ Along (processStep []) (RejectionKept []) plainState [(plainEnv, strangeFrame)] := by
  refine ⟨by decide, fun h => ?_⟩
  have hsize := congrArg PkgList.size (h.1 (by decide) (by decide))
  revert hsize
  decide

end IotConnect.LinkLayer
