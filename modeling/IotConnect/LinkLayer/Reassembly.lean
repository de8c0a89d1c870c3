import IotConnect.LinkLayer.Recv
import IotConnect.Foundations.Slots
import IotConnect.Foundations.Trace

/-! # What the receive cache is for

The abstract cache is a pool of messages under reassembly: for each token the announced number of
fragments and the fragments accepted since the entry was created. `Rep p a` says that the entry `p`
of the code carries the message `a`: bit `i` of the mask is set exactly for the accepted fragments,
the two counters are their number and their bytes, and fragment `i` sits in slot `i` of the buffer.
Every call of the code moves the pool as `Pool.insert` and `Pool.merge` say and returns their code
(`insert_refines`, `merge_refines`), whatever the peer sends.

The buffer reads as the message when the fragments before the last one fill their slots. The code
checks the length of a fragment against the fragment count of the arriving frame, not against the
count of the entry, so a peer that mixes counts can leave a gap; a run without such a fragment merges
what it accepted. -/
namespace IotConnect.LinkLayer
open Memory Slots Trace
set_option autoImplicit false

/-! ## The pool -/

/-- A message under reassembly. -/
structure Partial where
  token : UInt8
  savedTime : UInt32
  pkgNum : ℕ
  frags : Pieces UInt8

abbrev Pool := List Partial

def Partial.hasToken (token : UInt8) (a : Partial) : Bool := a.token == token

def Partial.alive (curTime : UInt32) (a : Partial) : Bool :=
  utilsDeltaTime curTime a.savedTime < pkgTimeout

/-- Offer fragment `i`: a repeated index changes nothing, an index past the announced number of
fragments is refused. -/
def Partial.accept (a : Partial) (i : ℕ) (d : List UInt8) : IotcRet × Partial :=
  if (a.frags i).isSome then (.ok, a)
  else if i < a.pkgNum then (.ok, { a with frags := put a.frags i d })
  else (.bleLlErrPkglen, a)

def Pool.insert (env : RecvEnv) (token pkgNum pkgIdx : UInt8) (data : List UInt8) (pool : Pool) :
    IotcRet × Pool :=
  if checkFragment pkgNum.toNat pkgIdx.toNat data ≠ .ok then
    (checkFragment pkgNum.toNat pkgIdx.toNat data, pool)
  else
    let pool := pool.filter (Partial.alive env.clearTime)
    match pool.find? (Partial.hasToken token) with
    | some a =>
      let (ret, a') := a.accept pkgIdx.toNat data
      (ret, Keyed.replaceFirst (Partial.hasToken token) a' pool)
    | none =>
      if ¬ pool.length < cacheMaxNum then (.bleLlErrPoolFull, pool)
      else if ¬ (env.callocPkg = true ∧ env.callocBuff = true) then (.memErrCalloc, pool)
      else
        let (ret, a') := Partial.accept ⟨token, env.saveTime, pkgNum.toNat, empty⟩ pkgIdx.toNat data
        (ret, pool ++ [a'])

def Pool.merge (token : UInt8) (pool : Pool) : Pool :=
  match pool.find? (Partial.hasToken token) with
  | some a =>
    if count a.frags a.pkgNum = a.pkgNum then pool.eraseP (Partial.hasToken token) else pool
  | none => pool

/-! ## Representation -/

/-- The entry `p` carries the message `a`. -/
structure Rep (p : CachePkgData) (a : Partial) : Prop where
  token : p.token = a.token
  savedTime : p.savedTime = a.savedTime
  pkgNum : p.pkgNum = a.pkgNum
  pkgNum_pos : 0 < a.pkgNum
  cap : p.mergeBuffCap = a.pkgNum * recvSinglePkgDataMaxSize
  mask : ∀ i, p.recvMask.testBit i = (a.frags i).isSome
  curSize : p.curSize = count a.frags a.pkgNum
  curDataLen : p.curDataLen = total a.frags a.pkgNum
  frag : ∀ i d, a.frags i = some d → i < a.pkgNum ∧ 0 < d.length ∧
    d.length ≤ recvSinglePkgDataMaxSize ∧ Holds p.mergeBuff (i * recvSinglePkgDataMaxSize) d

structure Refines (l : PkgList) (pool : Pool) : Prop where
  size : l.size = l.pkgs.length
  entries : List.Forall₂ Rep l.pkgs pool

theorem Rep.hasToken {p : CachePkgData} {a : Partial} (token : UInt8) (h : Rep p a) :
    (p.token == token) = a.hasToken token := by
  rw [Partial.hasToken, h.token]

theorem Rep.alive {p : CachePkgData} {a : Partial} (t : UInt32) (h : Rep p a) : pkgAlive t p = a.alive t := by
  rw [pkgAlive, Partial.alive, h.savedTime]

theorem Refines.init : Refines PkgList.init [] := ⟨rfl, .nil⟩

theorem Refines.length_eq {l : PkgList} {pool : Pool} (h : Refines l pool) : l.size = pool.length := by
  rw [h.size, h.entries.length_eq]

theorem Refines.find {l : PkgList} {pool : Pool} (h : Refines l pool) (token : UInt8) :
    (findPkgByToken token l = none ∧ pool.find? (Partial.hasToken token) = none) ∨
      ∃ p a, findPkgByToken token l = some p ∧ pool.find? (Partial.hasToken token) = some a ∧ Rep p a :=
  Keyed.forall₂_find? h.entries fun _ _ hr => hr.hasToken token

variable {l : PkgList} {pool : Pool}

theorem Refines.clearTimeout (h : Refines l pool) (t : UInt32) :
    Refines (clearTimeoutPkg t l) (pool.filter (Partial.alive t)) := by
  refine ⟨?_, Keyed.forall₂_filter h.entries fun _ _ hr => hr.alive t⟩
  have := Keyed.length_filter_add_countP (pkgAlive t) l.pkgs
  simp only [clearTimeoutPkg, h.size]
  omega

/-! ## One fragment -/

theorem newPkg_rep (token : UInt8) (n : ℕ) (t : UInt32) (hn : 0 < n) : Rep (newPkg token n t) ⟨token, t, n, empty⟩ where
  token := rfl
  savedTime := rfl
  pkgNum := rfl
  pkgNum_pos := hn
  cap := rfl
  mask := fun i => by simp [newPkg, empty]
  curSize := by simp [newPkg]
  curDataLen := by simp [newPkg]
  frag := fun i d h => by simp [empty] at h

theorem fits_iff (i n len : ℕ) (h0 : 0 < len) (h : len ≤ recvSinglePkgDataMaxSize) :
    i * recvSinglePkgDataMaxSize + len ≤ n * recvSinglePkgDataMaxSize ↔ i < n := by
  unfold recvSinglePkgDataMaxSize at *
  omega

theorem testBit_set (m i j : ℕ) : (m ||| 1 <<< i).testBit j = (m.testBit j || decide (j = i)) := by
  rw [Nat.testBit_or, Nat.one_shiftLeft, Nat.testBit_two_pow]
  simp only [eq_comm]

theorem Rep.put {p : CachePkgData} {a : Partial} (h : Rep p a) (i : ℕ) (d : List UInt8) (hi : i < a.pkgNum)
    (hnew : a.frags i = none) (h0 : 0 < d.length) (hd : d.length ≤ recvSinglePkgDataMaxSize) :
    Rep { p with
      mergeBuff := store p.mergeBuff (i * recvSinglePkgDataMaxSize) d
      recvMask := p.recvMask ||| 1 <<< i
      curSize := p.curSize + 1
      curDataLen := p.curDataLen + d.length } { a with frags := put a.frags i d } where
  token := h.token
  savedTime := h.savedTime
  pkgNum := h.pkgNum
  pkgNum_pos := h.pkgNum_pos
  cap := h.cap
  mask := by
    intro j
    simp only [testBit_set, h.mask]
    by_cases hj : j = i
    · subst hj; simp
    · simp [put_ne _ _ _ _ hj, hj]
  curSize := by simp only [count_put _ _ _ _ hi hnew, h.curSize]
  curDataLen := by simp only [total_put _ _ _ _ hi hnew, h.curDataLen]
  frag := by
    intro j e hj
    by_cases hji : j = i
    · subst hji
      simp only [put_self, Option.some.injEq] at hj
      subst hj
      exact ⟨hi, h0, hd, holds_store _ _ _⟩
    · simp only [put_ne _ _ _ _ hji] at hj
      obtain ⟨h1, h2, h3, h4⟩ := h.frag j e hj
      refine ⟨h1, h2, h3, ?_⟩
      unfold Holds at h4 ⊢
      -- slot `j` lies before or after slot `i`
      rcases Nat.lt_or_gt_of_ne hji with hlt | hgt
      · rw [load_store_before _ _ _ _ _ (by unfold recvSinglePkgDataMaxSize at *; omega), h4]
      · rw [load_store_after _ _ _ _ _ (by unfold recvSinglePkgDataMaxSize at *; omega), h4]

variable {p : CachePkgData} {a : Partial}

theorem accept_refines (h : Rep p a) (i : ℕ) (d : List UInt8)
    (h0 : 0 < d.length) (hd : d.length ≤ recvSinglePkgDataMaxSize) :
    (insertIntoPkg p i d).1 = (a.accept i d).1 ∧ Rep (insertIntoPkg p i d).2 (a.accept i d).2 := by
  unfold insertIntoPkg Partial.accept
  simp only [h.mask i]
  cases hf : a.frags i with
  | some e => exact ⟨rfl, h⟩
  | none =>
    have hfit : i * recvSinglePkgDataMaxSize + d.length ≤ p.mergeBuffCap ↔ i < a.pkgNum := by
      rw [h.cap]
      exact fits_iff i a.pkgNum d.length h0 hd
    by_cases hi : i < a.pkgNum
    · have hle := hfit.mpr hi
      have hcpy : memcpyS p.mergeBuff (i * recvSinglePkgDataMaxSize)
          (p.mergeBuffCap - i * recvSinglePkgDataMaxSize) d =
          some (store p.mergeBuff (i * recvSinglePkgDataMaxSize) d) :=
        memcpyS_of_le _ _ _ _ (by omega) (by omega)
      simp only [Option.isSome_none, Bool.false_eq_true, if_false, hle, not_true_eq_false, hcpy, hi, if_true]
      exact ⟨trivial, h.put i d hi hf h0 hd⟩
    · have hle : ¬ i * recvSinglePkgDataMaxSize + d.length ≤ p.mergeBuffCap :=
        fun hc => hi (hfit.mp hc)
      simp only [Option.isSome_none, Bool.false_eq_true, if_false, hle, not_false_eq_true, if_true, hi]
      exact ⟨trivial, h⟩

theorem checkFragment_ok {n i : ℕ} {d : List UInt8} (h : checkFragment n i d = .ok) :
    0 < d.length ∧ 0 < n ∧ n ≤ pkgMaxNumLimit ∧ i < n ∧ d.length ≤ recvSinglePkgDataMaxSize ∧
      (d.length = recvSinglePkgDataMaxSize ∨ i + 1 = n) := by
  unfold checkFragment at h
  split at h
  · cases h
  split at h
  · cases h
  split at h
  · cases h
  split at h
  · cases h
  split at h
  · cases h
  rename_i h1 h2 h3 h4 h5
  exact ⟨not_not.mp h1, (not_not.mp h2).1, (not_not.mp h2).2, not_not.mp h3, not_not.mp h4, not_not.mp h5⟩

theorem insert_refines (h : Refines l pool) (env : RecvEnv) (token pkgNum pkgIdx : UInt8) (data : List UInt8) :
    (linkLayerRecvPkgInsert env token pkgNum pkgIdx data l).1 = (pool.insert env token pkgNum pkgIdx data).1 ∧
      Refines (linkLayerRecvPkgInsert env token pkgNum pkgIdx data l).2
        (pool.insert env token pkgNum pkgIdx data).2 := by
  unfold linkLayerRecvPkgInsert Pool.insert
  by_cases hchk : checkFragment pkgNum.toNat pkgIdx.toNat data = .ok
  · obtain ⟨h0, hn, -, -, hd, -⟩ := checkFragment_ok hchk
    have hc := h.clearTimeout env.clearTime
    simp only [hchk, ne_eq, not_true_eq_false, if_false]
    rcases hc.find token with ⟨hl, hp⟩ | ⟨p, a, hl, hp, hrep⟩
    · rw [hl, hp]
      simp only [hc.length_eq]
      by_cases hfull : (pool.filter (Partial.alive env.clearTime)).length < cacheMaxNum
      · by_cases halloc : env.callocPkg = true ∧ env.callocBuff = true
        · have ha := accept_refines (newPkg_rep token pkgNum.toNat env.saveTime hn) pkgIdx.toNat data h0 hd
          simp only [hfull, halloc, not_true_eq_false, if_false, and_self]
          refine ⟨ha.1, ?_, Keyed.forall₂_snoc hc.entries ha.2⟩
          simp only [List.length_append, List.length_singleton, ← hc.length_eq, hc.size]
        · simp only [hfull, halloc, not_true_eq_false, not_false_eq_true, if_false, if_true]
          exact ⟨trivial, hc⟩
      · simp only [hfull, not_false_eq_true, if_true]
        exact ⟨trivial, hc⟩
    · rw [hl, hp]
      have ha := accept_refines hrep pkgIdx.toNat data h0 hd
      refine ⟨ha.1, ?_, ?_⟩
      · simp only [replacePkg, Keyed.length_replaceFirst, hc.size]
      · exact Keyed.forall₂_replaceFirst hc.entries (fun _ _ hr => hr.hasToken token) ha.2
  · simp only [ne_eq, hchk, not_false_eq_true, if_true]
    exact ⟨trivial, h⟩

/-! ## Completion -/

theorem completeCheck_eq {token : UInt8} (hl : findPkgByToken token l = some p) (hrep : Rep p a) :
    linkLayerRecvCompleteCheck token l = (.ok, decide (count a.frags a.pkgNum = a.pkgNum)) := by
  unfold linkLayerRecvCompleteCheck
  rw [hl]
  simp only [hrep.curSize, hrep.pkgNum]
  have hle := count_le a.frags a.pkgNum
  by_cases h : count a.frags a.pkgNum = a.pkgNum
  · simp [h]
  · have hlt : count a.frags a.pkgNum < a.pkgNum := by omega
    simp [h, hlt]

theorem total_pos_of_full (hrep : Rep p a)
    (hfull : count a.frags a.pkgNum = a.pkgNum) : 0 < total a.frags a.pkgNum := by
  have h0 := (count_eq_iff _ _).mp hfull 0 hrep.pkgNum_pos
  obtain ⟨d, hd⟩ := Option.isSome_iff_exists.mp h0
  refine total_pos _ _ 0 hrep.pkgNum_pos ?_
  rw [piece, hd]
  exact (hrep.frag 0 d hd).2.1

/-- What a merge does: a complete message leaves the pool and the caller gets the first
`total` bytes of its buffer; anything else changes nothing. -/
theorem merge_cases (h : Refines l pool) (token : UInt8) :
    (∃ p a, pool.find? (Partial.hasToken token) = some a ∧ Rep p a ∧ count a.frags a.pkgNum = a.pkgNum ∧
      linkLayerRecvMergePkgs token l =
        (.ok, some (load p.mergeBuff 0 (total a.frags a.pkgNum)), removePkg token l)) ∨
    (∃ ret, linkLayerRecvMergePkgs token l = (ret, none, l) ∧ pool.merge token = pool) := by
  rcases h.find token with ⟨hl, hp⟩ | ⟨p, a, hl, hp, hrep⟩
  · refine .inr ⟨.bleLlErrToken, ?_, ?_⟩
    · simp [linkLayerRecvMergePkgs, linkLayerRecvCompleteCheck, hl]
    · rw [Pool.merge, hp]
  · have hcc := completeCheck_eq hl hrep
    by_cases hfull : count a.frags a.pkgNum = a.pkgNum
    · refine .inl ⟨p, a, hp, hrep, hfull, ?_⟩
      have hpos : ¬ total a.frags a.pkgNum = 0 := by
        have := total_pos_of_full hrep hfull
        omega
      rw [linkLayerRecvMergePkgs, hcc, hl]
      simp [hfull, hrep.curDataLen, hpos]
    · refine .inr ⟨.ok, ?_, ?_⟩
      · rw [linkLayerRecvMergePkgs, hcc]
        simp [hfull]
      · rw [Pool.merge, hp]
        simp [hfull]

theorem merge_refines (h : Refines l pool) (token : UInt8) :
    Refines (linkLayerRecvMergePkgs token l).2.2 (pool.merge token) := by
  rcases merge_cases h token with ⟨p, a, hp, -, hfull, heq⟩ | ⟨ret, heq, hpool⟩
  · rw [heq, Pool.merge, hp]
    simp only [hfull, if_true]
    have hent := Keyed.forall₂_eraseP h.entries fun _ _ hr => Rep.hasToken token hr
    refine ⟨?_, hent⟩
    -- the erased entry was there
    rw [removePkg, h.size]
    obtain ⟨p', hp', -⟩ : ∃ p', findPkgByToken token l = some p' ∧ Rep p' a := by
      rcases h.find token with ⟨-, hn⟩ | ⟨p', a', hl', hp', hr'⟩
      · rw [hn] at hp; cases hp
      · rw [hp'] at hp
        cases hp
        exact ⟨p', hl', hr'⟩
    have hmem := List.mem_of_find?_eq_some hp'
    have htok := List.find?_some hp'
    rw [List.length_eraseP_of_mem hmem htok]
  · rw [heq, hpool]
    exact h

/-! ## Runs -/

inductive CacheOp where
  | insert (env : RecvEnv) (token pkgNum pkgIdx : UInt8) (data : List UInt8)
  | merge (token : UInt8)
  | clearAll

def cacheStep (l : PkgList) : CacheOp → PkgList
  | .insert env token pkgNum pkgIdx data => (linkLayerRecvPkgInsert env token pkgNum pkgIdx data l).2
  | .merge token => (linkLayerRecvMergePkgs token l).2.2
  | .clearAll => linkLayerClearAllCachePkg l

def poolStep (pool : Pool) : CacheOp → Pool
  | .insert env token pkgNum pkgIdx data => (pool.insert env token pkgNum pkgIdx data).2
  | .merge token => pool.merge token
  | .clearAll => []

theorem step_refines (h : Refines l pool) (op : CacheOp) : Refines (cacheStep l op) (poolStep pool op) := by
  cases op with
  | insert env token pkgNum pkgIdx data => exact (insert_refines h env token pkgNum pkgIdx data).2
  | merge token => exact merge_refines h token
  | clearAll => exact ⟨by simp [cacheStep, linkLayerClearAllCachePkg, h.size], .nil⟩

/-! ## Gaps -/

def Partial.Contiguous (a : Partial) : Prop :=
  ∀ i d, a.frags i = some d → i + 1 < a.pkgNum → d.length = recvSinglePkgDataMaxSize

/-- A fragment that passes the checks, is new to the entry of its token and is not for the entry's last slot,
fills its slot. -/
def FillsSlot (l : PkgList) : CacheOp → Prop
  | .insert env token pkgNum pkgIdx data =>
    checkFragment pkgNum.toNat pkgIdx.toNat data = .ok → ∀ p, findPkgByToken token (clearTimeoutPkg env.clearTime l) = some p →
      p.recvMask.testBit pkgIdx.toNat = false → pkgIdx.toNat + 1 < p.pkgNum →
      data.length = recvSinglePkgDataMaxSize
  | .merge _ => True
  | .clearAll => True

theorem Partial.Contiguous.accept {a : Partial} (h : a.Contiguous) (i : ℕ) (d : List UInt8)
    (hd : a.frags i = none → i + 1 < a.pkgNum → d.length = recvSinglePkgDataMaxSize) :
    (a.accept i d).2.Contiguous := by
  unfold Partial.accept
  split_ifs with hdup hi
  · exact h
  · intro j e hj hlast
    by_cases hji : j = i
    · subst hji
      simp only [put_self, Option.some.injEq] at hj
      subst hj
      exact hd (by simpa using hdup) hlast
    · simp only [put_ne _ _ _ _ hji] at hj
      exact h j e hj hlast
  · exact h

theorem insert_contiguous (h : Refines l pool) (hpool : ∀ a ∈ pool, a.Contiguous)
    (env : RecvEnv) (token pkgNum pkgIdx : UInt8) (data : List UInt8)
    (hfill : FillsSlot l (.insert env token pkgNum pkgIdx data)) :
    ∀ a ∈ (pool.insert env token pkgNum pkgIdx data).2, a.Contiguous := by
  have hc := h.clearTimeout env.clearTime
  have hlive : ∀ a ∈ pool.filter (Partial.alive env.clearTime), a.Contiguous :=
    fun a ha => hpool a (List.mem_of_mem_filter ha)
  unfold Pool.insert
  by_cases hchk : checkFragment pkgNum.toNat pkgIdx.toNat data = .ok
  · simp only [hchk, ne_eq, not_true_eq_false, if_false]
    rcases hc.find token with ⟨-, hp⟩ | ⟨p, a, hl, hp, hrep⟩
    · simp only [hp]
      split
      · exact hlive
      split
      · exact hlive
      intro a ha
      rcases List.mem_append.mp ha with ha | ha
      · exact hlive a ha
      · rw [List.mem_singleton.mp ha]
        refine Partial.Contiguous.accept (fun i d hi => by simp [empty] at hi) _ _ fun _ hlast => ?_
        -- the entry is new: its fragment count is that of the frame
        obtain ⟨-, -, -, -, -, hfull | hlast'⟩ := checkFragment_ok hchk
        · exact hfull
        · dsimp only at hlast
          omega
    · simp only [hp]
      intro b hb
      rcases Keyed.mem_replaceFirst hb with rfl | hb
      · refine (hlive a (List.mem_of_find?_eq_some hp)).accept _ _ fun hnew hlast => ?_
        refine hfill hchk p hl ?_ (by rw [hrep.pkgNum]; exact hlast)
        rw [hrep.mask, hnew, Option.isSome_none]
      · exact hlive b hb
  · simp only [ne_eq, hchk, not_false_eq_true, if_true]
    exact hpool

def GapFree (l : PkgList) (pool : Pool) : Prop := Refines l pool ∧ ∀ a ∈ pool, a.Contiguous

theorem step_gapFree (l : PkgList) (pool : Pool) (op : CacheOp) (hfill : FillsSlot l op) (h : GapFree l pool) :
    GapFree (cacheStep l op) (poolStep pool op) := by
  refine ⟨step_refines h.1 op, ?_⟩
  cases op with
  | insert env token pkgNum pkgIdx data =>
    exact insert_contiguous h.1 h.2 env token pkgNum pkgIdx data hfill
  | merge token =>
    intro a ha
    refine h.2 a ?_
    simp only [poolStep, Pool.merge] at ha
    split at ha
    · split at ha
      · exact List.mem_of_mem_eraseP ha
      · exact ha
    · exact ha
  | clearAll => intro a ha; cases ha

theorem run_gapFree {ops : List CacheOp} (hfill : Along cacheStep FillsSlot PkgList.init ops) :
    GapFree (run cacheStep PkgList.init ops) (run poolStep [] ops) :=
  run_simulation step_gapFree hfill ⟨Refines.init, fun a ha => by cases ha⟩

theorem load_eq_concat (hrep : Rep p a) (hfull : Full a.frags a.pkgNum)
    (hcont : a.Contiguous) : load p.mergeBuff 0 (total a.frags a.pkgNum) = concat a.frags a.pkgNum := by
  have hget : ∀ i < a.pkgNum, ∃ d, a.frags i = some d := fun i hi => Option.isSome_iff_exists.mp (hfull i hi)
  refine load_concat _ _ recvSinglePkgDataMaxSize _ (fun i hi => ?_) fun i hi => ?_
  · obtain ⟨d, hd⟩ := hget i (by omega)
    rw [piece, hd]
    exact hcont i d hd hi
  · obtain ⟨d, hd⟩ := hget i hi
    rw [piece, hd]
    exact (hrep.frag i d hd).2.2.2

/-- **Whatever peers send, a run in which no new fragment leaves a gap before the last slot of its
entry merges exactly the fragments accepted for the token, in index order.** -/
theorem merge_eq_concat_of_fillsSlot (ops : List CacheOp) (token : UInt8) (out : List UInt8)
    (hfill : Along cacheStep FillsSlot PkgList.init ops)
    (hout : (linkLayerRecvMergePkgs token (run cacheStep PkgList.init ops)).2.1 = some out) :
    ∃ a, (run poolStep [] ops).find? (Partial.hasToken token) = some a ∧ Full a.frags a.pkgNum ∧
      out = concat a.frags a.pkgNum := by
  obtain ⟨href, hcont⟩ := run_gapFree hfill
  rcases merge_cases href token with ⟨p, a, ha, hrep, hfull, heq⟩ | ⟨ret, heq, -⟩
  · rw [heq, Option.some.injEq] at hout
    have hfull := (count_eq_iff _ _).mp hfull
    refine ⟨a, ha, hfull, ?_⟩
    rw [← hout, load_eq_concat hrep hfull (hcont a (List.mem_of_find?_eq_some ha))]
  · rw [heq] at hout
    cases hout

/-- The tail comes first, and a short fragment `0` is refused before the whole one. -/
def tailFirstOps : List CacheOp :=
  [.insert ⟨0, 0, true, true⟩ 1 2 1 [7], .insert ⟨5, 5, true, true⟩ 1 2 0 [5],
    .insert ⟨9, 9, true, true⟩ 1 2 0 (List.replicate 153 5)]

theorem merge_eq_concat_tailFirst :
    ∃ a, (run poolStep [] tailFirstOps).find? (Partial.hasToken 1) = some a ∧ Full a.frags a.pkgNum ∧
      List.replicate 153 5 ++ [7] = concat a.frags a.pkgNum :=
  merge_eq_concat_of_fillsSlot tailFirstOps 1 _
    ⟨fun _ p hp => by simp [clearTimeoutPkg, PkgList.init, findPkgByToken] at hp,
      fun hchk => absurd hchk (by decide), fun _ _ _ _ _ => rfl, trivial⟩
    (by decide +kernel)

/-- Fragment `1` of `2`, then a frame of the same token that calls itself fragment `0` of `1`: both
are accepted, and the second byte of the merged message comes from neither. -/
def mixedPkgNumOps : List CacheOp :=
  [.insert ⟨0, 0, true, true⟩ 1 2 1 [7], .insert ⟨0, 0, true, true⟩ 1 1 0 [5]]

theorem merge_mixed_pkgNum :
    (linkLayerRecvMergePkgs 1 (run cacheStep PkgList.init mixedPkgNumOps)).1 = .ok ∧
      (linkLayerRecvMergePkgs 1 (run cacheStep PkgList.init mixedPkgNumOps)).2.1 = some [5, 0] ∧
      ((run poolStep [] mixedPkgNumOps).find? (Partial.hasToken 1)).map
        (fun a => concat a.frags a.pkgNum) = some [5, 7] := by
  decide

end IotConnect.LinkLayer
