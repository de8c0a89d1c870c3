import IotConnect.Common.Utils
import IotConnect.Foundations.Keyed

/-! # The receive cache of the SLE link layer (`sle_linklayer_recv.c`)

Messages under reassembly are kept in a list of at most five entries, each with the fragments that have
arrived, sorted by index. The type of the key by which an entry is found is a parameter: the code uses
the token of the package head. The outcomes of the allocations and the two clock readings of a call are
inputs (`RecvEnv`). -/
namespace IotConnect.Sle
open Memory
set_option autoImplicit false

def pkgMaxNum : ℕ := 5
def pkgTimeout : UInt32 := 10 * 1000

structure SubPkg where
  index : UInt8
  buff : List UInt8
  deriving DecidableEq

structure SubPkgList where
  curSize : UInt8
  curDataLen : UInt32
  subPkgs : List SubPkg

structure CachePkgData (κ : Type) where
  token : κ
  pkgNum : UInt8
  savedTime : UInt32
  subPkgList : SubPkgList

structure PkgList (κ : Type) where
  size : ℕ
  pkgs : List (CachePkgData κ)

/-- `g_pkgList` before the first fragment. -/
def PkgList.init (κ : Type) : PkgList κ := ⟨0, []⟩

structure RecvEnv where
  /-- `IotcGetSysTimeMs` in `ClearTimeoutPkg`. -/
  clearTime : UInt32
  /-- `IotcGetSysTimeMs` where a new entry is stamped. -/
  saveTime : UInt32
  callocPkg : Bool
  callocSubPkg : Bool
  callocBuff : Bool
  callocData : Bool

section
variable {κ : Type}

/-! ## The list of entries -/

def sleLinkLayerClearAllCachePkg (l : PkgList κ) : PkgList κ :=
  ⟨l.size - l.pkgs.length, []⟩

def pkgAlive (curTime : UInt32) (p : CachePkgData κ) : Bool :=
  utilsDeltaTime curTime p.savedTime < pkgTimeout

def clearTimeoutPkg (curTime : UInt32) (l : PkgList κ) : PkgList κ :=
  ⟨l.size - l.pkgs.countP (fun p => !pkgAlive curTime p), l.pkgs.filter (pkgAlive curTime)⟩

variable [DecidableEq κ]

def hasToken (token : κ) (p : CachePkgData κ) : Bool := p.token = token

def findPkgByToken (token : κ) (l : PkgList κ) : Option (CachePkgData κ) := l.pkgs.find? (hasToken token)

/-- Writing through the pointer that `FindPkgByToken` returned. -/
def replacePkg (token : κ) (p : CachePkgData κ) (l : PkgList κ) : PkgList κ :=
  { l with pkgs := Keyed.replaceFirst (hasToken token) p l.pkgs }

/-- Unlinking and freeing the entry that `FindPkgByToken` returned. -/
def removePkg (token : κ) (l : PkgList κ) : PkgList κ := ⟨l.size - 1, l.pkgs.eraseP (hasToken token)⟩

/-! ## Inserting a fragment -/

/-- The loop of `InsertSubPkg`: `none` at a fragment of the same index, else the fragments before the place
of the new one and the others. -/
def splitSubPkgs (pkgIdx : UInt8) : List SubPkg → Option (List SubPkg × List SubPkg)
  | [] => some ([], [])
  | s :: subPkgs =>
    if s.index = pkgIdx then none
    else if pkgIdx < s.index then some ([], s :: subPkgs)
    else (splitSubPkgs pkgIdx subPkgs).map fun (before, after) => (s :: before, after)

def insertSubPkg (env : RecvEnv) (l : SubPkgList) (pkgIdx : UInt8) (data : List UInt8) : IotcRet × SubPkgList :=
  match splitSubPkgs pkgIdx l.subPkgs with
  | none => (.ok, l)
  | some (before, after) =>
    if ¬ (env.callocSubPkg = true ∧ env.callocBuff = true) then (.memErrCalloc, l)
    else
      (.ok, {
        curSize := l.curSize + 1
        curDataLen := l.curDataLen + data.length.toUInt32
        subPkgs := before ++ ⟨pkgIdx, data⟩ :: after })

/-- The entry that `InsertPkg` links. -/
def newPkg (token : κ) (pkgNum : UInt8) (savedTime : UInt32) : CachePkgData κ :=
  ⟨token, pkgNum, savedTime, ⟨0, 0, []⟩⟩

/-- The fragment is offered to the entry `p` of the list; an entry that is left without a fragment is freed. -/
def offerSubPkg (env : RecvEnv) (token : κ) (pkgIdx : UInt8) (data : List UInt8) (p : CachePkgData κ)
    (l : PkgList κ) : IotcRet × PkgList κ :=
  let (ret, subPkgList) := insertSubPkg env p.subPkgList pkgIdx data
  if ret = .ok then (.ok, replacePkg token { p with subPkgList := subPkgList } l)
  else if p.subPkgList.curSize = 0 then (ret, removePkg token l)
  else (ret, l)

def sleLinkLayerRecvPkgInsert (env : RecvEnv) (token : κ) (pkgNum pkgIdx : UInt8) (data : List UInt8)
    (l : PkgList κ) : IotcRet × PkgList κ :=
  if data = [] then (.errParamInvalid, l)
  else
    let l := clearTimeoutPkg env.clearTime l
    match findPkgByToken token l with
    | some p => offerSubPkg env token pkgIdx data p l
    | none =>
      if ¬ l.size < pkgMaxNum then (.sleLlErrPoolFull, l)
      else if env.callocPkg = false then (.memErrCalloc, l)
      else
        let p := newPkg token pkgNum env.saveTime
        offerSubPkg env token pkgIdx data p ⟨l.size + 1, l.pkgs ++ [p]⟩

/-! ## Completion -/

/-- `SleLinkLayerRecvCompleteCheck`: the return code and `*isComplete`. -/
def sleLinkLayerRecvCompleteCheck (token : κ) (l : PkgList κ) : IotcRet × Bool :=
  match findPkgByToken token l with
  | none => (.sleLlErrToken, false)
  | some p =>
    if p.subPkgList.curSize = p.pkgNum then (.ok, true)
    else if p.subPkgList.curSize < p.pkgNum then (.ok, false)
    else (.sleLlErrPkgnum, false)

/-- The loop of `SleLinkLayerRecvMergePkgs`, with `curLen` bytes of `data` written. -/
def mergeLoop (dataLen : ℕ) : ℕ → (ℕ → UInt8) → List SubPkg → Option (ℕ → UInt8)
  | _, data, [] => some data
  | curLen, data, s :: subPkgs =>
    match memcpyS data curLen (dataLen - curLen) s.buff with
    | none => none
    | some data => mergeLoop dataLen (curLen + s.buff.length) data subPkgs

/-- `SleLinkLayerRecvMergePkgs`: the return code, the bytes handed to the caller, if any, and the cache.
An incomplete message returns the code of the completeness check, which is `ok`. -/
def sleLinkLayerRecvMergePkgs (env : RecvEnv) (token : κ) (l : PkgList κ) :
    IotcRet × Option (List UInt8) × PkgList κ :=
  let (ret, isComplete) := sleLinkLayerRecvCompleteCheck token l
  if ¬ (ret = .ok ∧ isComplete = true) then (ret, none, l)
  else
    match findPkgByToken token l with
    | none => (.sleLlErrToken, none, l)
    | some p =>
      let dataLen := p.subPkgList.curDataLen.toNat
      if dataLen = 0 then (.sleLlErrPkglen, none, l)
      else if env.callocData = false then (.memErrCalloc, none, l)
      else
        match mergeLoop dataLen 0 (fun _ => 0) p.subPkgList.subPkgs with
        | none => (.errSecurecMemcpy, none, l)
        | some data => (.ok, some (load data 0 dataLen), removePkg token l)

end

end IotConnect.Sle
