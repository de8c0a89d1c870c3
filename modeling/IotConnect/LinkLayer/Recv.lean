import IotConnect.Common.Utils
import IotConnect.Foundations.Keyed

/-! # The receive cache of the BLE link layer (`linklayer_recv.c`)

A message arrives in up to 16 fragments. The first one allocates a buffer with one slot of 153
bytes for each fragment the header announces; every fragment is copied to the slot of its index.
The outcomes of the two allocations and the two clock readings of a call are inputs
(`RecvEnv`). -/
namespace IotConnect.LinkLayer
open Memory
set_option autoImplicit false

/-- `PKG_MAX_NUM`: how many messages may be under reassembly at once. -/
def cacheMaxNum : ℕ := 1
def pkgTimeout : UInt32 := 10 * 1000
def recvSinglePkgDataMaxSize : ℕ := 153
def pkgMaxNumLimit : ℕ := 16

structure CachePkgData where
  savedTime : UInt32
  mergeBuff : ℕ → UInt8
  mergeBuffCap : ℕ
  curDataLen : ℕ
  recvMask : ℕ
  token : UInt8
  pkgNum : ℕ
  curSize : ℕ

structure PkgList where
  size : ℕ
  pkgs : List CachePkgData

/-- `g_pkgList` before the first fragment. -/
def PkgList.init : PkgList := ⟨0, []⟩

structure RecvEnv where
  /-- `IotcGetSysTimeMs` in `ClearTimeoutPkg`. -/
  clearTime : UInt32
  /-- `IotcGetSysTimeMs` where a new entry is stamped. -/
  saveTime : UInt32
  callocPkg : Bool
  callocBuff : Bool

/-! ## The list of entries -/

def linkLayerClearAllCachePkg (l : PkgList) : PkgList :=
  ⟨l.size - l.pkgs.length, []⟩

def pkgAlive (curTime : UInt32) (p : CachePkgData) : Bool :=
  utilsDeltaTime curTime p.savedTime < pkgTimeout

def clearTimeoutPkg (curTime : UInt32) (l : PkgList) : PkgList :=
  ⟨l.size - l.pkgs.countP (fun p => !pkgAlive curTime p), l.pkgs.filter (pkgAlive curTime)⟩

def findPkgByToken (token : UInt8) (l : PkgList) : Option CachePkgData :=
  l.pkgs.find? fun p => p.token == token

/-- Writing through the pointer that `FindPkgByToken` returned. -/
def replacePkg (token : UInt8) (p' : CachePkgData) (l : PkgList) : PkgList :=
  { l with pkgs := Keyed.replaceFirst (fun p => p.token == token) p' l.pkgs }

/-- Unlinking and freeing the entry that `FindPkgByToken` returned. -/
def removePkg (token : UInt8) (l : PkgList) : PkgList :=
  ⟨l.size - 1, l.pkgs.eraseP fun p => p.token == token⟩

/-! ## Inserting a fragment -/

def newPkg (token : UInt8) (pkgNum : ℕ) (savedTime : UInt32) : CachePkgData where
  savedTime := savedTime
  mergeBuff := fun _ => 0
  mergeBuffCap := pkgNum * recvSinglePkgDataMaxSize
  curDataLen := 0
  recvMask := 0
  token := token
  pkgNum := pkgNum
  curSize := 0

/-- The parameter checks at the head of `LinkLayerRecvPkgInsert`. A null `data` is refused like an
empty one: both are `[]`. -/
def checkFragment (pkgNum pkgIdx : ℕ) (data : List UInt8) : IotcRet :=
  if ¬ 0 < data.length then .errParamInvalid
  else if ¬ (0 < pkgNum ∧ pkgNum ≤ pkgMaxNumLimit) then .bleLlErrPkgnum
  else if ¬ pkgIdx < pkgNum then .bleLlErrPkgnum
  else if ¬ data.length ≤ recvSinglePkgDataMaxSize then .bleLlErrPkglen
  else if ¬ (data.length = recvSinglePkgDataMaxSize ∨ pkgIdx + 1 = pkgNum) then .bleLlErrPkglen
  else .ok

/-- From the deduplication on: the return code and the entry the fragment was offered to. -/
def insertIntoPkg (p : CachePkgData) (pkgIdx : ℕ) (data : List UInt8) : IotcRet × CachePkgData :=
  if p.recvMask.testBit pkgIdx then
    (.ok, p)
  else
    let offset := pkgIdx * recvSinglePkgDataMaxSize
    if ¬ offset + data.length ≤ p.mergeBuffCap then
      (.bleLlErrPkglen, p)
    else
      match memcpyS p.mergeBuff offset (p.mergeBuffCap - offset) data with
      | none => (.errSecurecMemcpy, p)
      | some buff =>
        -- `pkgIdx` is below 16 and `curSize` below 17: neither field wraps
        (.ok, { p with
          mergeBuff := buff
          recvMask := p.recvMask ||| 1 <<< pkgIdx
          curSize := p.curSize + 1
          curDataLen := p.curDataLen + data.length })

def linkLayerRecvPkgInsert (env : RecvEnv) (token pkgNum pkgIdx : UInt8) (data : List UInt8)
    (l : PkgList) : IotcRet × PkgList :=
  if checkFragment pkgNum.toNat pkgIdx.toNat data ≠ .ok then
    (checkFragment pkgNum.toNat pkgIdx.toNat data, l)
  else
    let l := clearTimeoutPkg env.clearTime l
    match findPkgByToken token l with
    | some p =>
      let (ret, p') := insertIntoPkg p pkgIdx.toNat data
      (ret, replacePkg token p' l)
    | none =>
      if ¬ l.size < cacheMaxNum then
        (.bleLlErrPoolFull, l)
      else if ¬ (env.callocPkg = true ∧ env.callocBuff = true) then
        (.memErrCalloc, l)
      else
        -- the new entry is linked before the fragment is copied, and stays if the copy fails
        let (ret, p') := insertIntoPkg (newPkg token pkgNum.toNat env.saveTime) pkgIdx.toNat data
        (ret, ⟨l.size + 1, l.pkgs ++ [p']⟩)

/-! ## Completion -/

/-- `LinkLayerRecvCompleteCheck`: the return code and `*isComplete`. -/
def linkLayerRecvCompleteCheck (token : UInt8) (l : PkgList) : IotcRet × Bool :=
  match findPkgByToken token l with
  | none => (.bleLlErrToken, false)
  | some p =>
    if p.curSize = p.pkgNum then (.ok, true)
    else if p.curSize < p.pkgNum then (.ok, false)
    else (.bleLlErrPkgnum, false)

/-- `LinkLayerRecvMergePkgs`: the return code, the bytes handed to the caller, if any, and the
cache. An incomplete message returns the code of the completeness check, which is `ok`. -/
def linkLayerRecvMergePkgs (token : UInt8) (l : PkgList) : IotcRet × Option (List UInt8) × PkgList :=
  let (ret, isComplete) := linkLayerRecvCompleteCheck token l
  if ¬ (ret = .ok ∧ isComplete = true) then
    (ret, none, l)
  else
    match findPkgByToken token l with
    | none => (.bleLlErrToken, none, l)
    | some p =>
      if p.curDataLen = 0 then (.bleLlErrPkglen, none, l)
      else (.ok, some (load p.mergeBuff 0 p.curDataLen), removePkg token l)

end IotConnect.LinkLayer
