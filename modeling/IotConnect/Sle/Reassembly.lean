import IotConnect.Foundations.Trace
import IotConnect.Sle.Recv

/-! # What the SLE receive cache keeps and what it merges

Whatever is inserted, the fragments of an entry stay in strictly increasing index order, its two counters
are their number and their bytes in machine arithmetic (`Sound`), and a merge that succeeds hands out their
concatenation (`merge_ok`). Completion compares the counter with the announced number and never looks at
an index, so that a merge has the indices `0 .. pkgNum - 1` needs that no index past the announced number was
accepted (`InRange`). -/
namespace IotConnect.Sle
open Memory Trace
set_option autoImplicit false

/-! ## Sorted insertion -/

abbrev Increasing (subPkgs : List SubPkg) : Prop := subPkgs.Pairwise fun s t => s.index < t.index

theorem splitSubPkgs_some {i : UInt8} {subPkgs before after : List SubPkg}
    (h : splitSubPkgs i subPkgs = some (before, after)) (hinc : Increasing subPkgs) :
    subPkgs = before ++ after ∧ (∀ s ∈ before, s.index < i) ∧ ∀ s ∈ after, i < s.index := by
  induction subPkgs generalizing before with
  | nil =>
    cases h
    exact ⟨rfl, by simp, by simp⟩
  | cons s subPkgs ih =>
    obtain ⟨hs, hinc'⟩ := List.pairwise_cons.mp hinc
    unfold splitSubPkgs at h
    by_cases heq : s.index = i
    · rw [if_pos heq] at h
      cases h
    by_cases hlt : i < s.index
    · rw [if_neg heq, if_pos hlt] at h
      cases h
      refine ⟨rfl, by simp, ?_⟩
      intro t ht
      rcases List.mem_cons.mp ht with rfl | ht
      · exact hlt
      · exact UInt8.lt_trans hlt (hs t ht)
    · rw [if_neg heq, if_neg hlt] at h
      obtain ⟨⟨before', after'⟩, hrec, hpair⟩ := Option.map_eq_some_iff.mp h
      cases hpair
      obtain ⟨happ, hbefore, hafter⟩ := ih hrec hinc'
      refine ⟨by rw [happ, List.cons_append], ?_, hafter⟩
      intro t ht
      rcases List.mem_cons.mp ht with rfl | ht
      · exact UInt8.lt_of_le_of_ne (UInt8.not_lt.mp hlt) heq
      · exact hbefore t ht

theorem increasing_insert {i : UInt8} {d : List UInt8} {before after : List SubPkg}
    (hinc : Increasing (before ++ after)) (hbefore : ∀ s ∈ before, s.index < i)
    (hafter : ∀ s ∈ after, i < s.index) : Increasing (before ++ ⟨i, d⟩ :: after) := by
  obtain ⟨hb, ha, hba⟩ := List.pairwise_append.mp hinc
  refine List.pairwise_append.mpr ⟨hb, List.pairwise_cons.mpr ⟨hafter, ha⟩, ?_⟩
  intro s hs t ht
  rcases List.mem_cons.mp ht with rfl | ht
  · exact hbefore s hs
  · exact hba s hs t ht

/-! ## What a call does to the list -/

section
variable {κ : Type}

/-- What a fragment does, from the entry found for its token and whether the list has room. -/
def insertEdit (env : RecvEnv) (token : κ) (pkgNum i : UInt8) (d : List UInt8) (room : Prop) [Decidable room] :
    Option (CachePkgData κ) → IotcRet × Keyed.Edit (CachePkgData κ)
  | some p =>
    let (ret, subPkgList) := insertSubPkg env p.subPkgList i d
    if ret = .ok then (.ok, .write { p with subPkgList := subPkgList })
    else (ret, if p.subPkgList.curSize = 0 then .drop else .keep)
  | none =>
    if ¬ room then (.sleLlErrPoolFull, .keep)
    else if env.callocPkg = false then (.memErrCalloc, .keep)
    else
      let (ret, subPkgList) := insertSubPkg env ⟨0, 0, []⟩ i d
      (ret, if ret = .ok then .add { newPkg token pkgNum env.saveTime with subPkgList := subPkgList } else .keep)

def mergeEdit (env : RecvEnv) : Option (CachePkgData κ) → IotcRet × Option (List UInt8) × Keyed.Edit (CachePkgData κ)
  | none => (.sleLlErrToken, none, .keep)
  | some p =>
    if p.pkgNum < p.subPkgList.curSize then (.sleLlErrPkgnum, none, .keep)
    else if p.subPkgList.curSize < p.pkgNum then (.ok, none, .keep)
    else if p.subPkgList.curDataLen.toNat = 0 then (.sleLlErrPkglen, none, .keep)
    else if env.callocData = false then (.memErrCalloc, none, .keep)
    else
      match mergeLoop p.subPkgList.curDataLen.toNat 0 (fun _ => 0) p.subPkgList.subPkgs with
      | none => (.errSecurecMemcpy, none, .keep)
      | some data => (.ok, some (load data 0 p.subPkgList.curDataLen.toNat), .drop)

/-- The entry `q` is `p` with fragment `i` taken in. -/
def Takes (i : UInt8) (d : List UInt8) (p q : CachePkgData κ) : Prop :=
  ∃ before after, splitSubPkgs i p.subPkgList.subPkgs = some (before, after) ∧
    q = { p with subPkgList := {
      curSize := p.subPkgList.curSize + 1
      curDataLen := p.subPkgList.curDataLen + d.length.toUInt32
      subPkgs := before ++ ⟨i, d⟩ :: after } }

variable {env : RecvEnv} {i : UInt8} {d : List UInt8}

theorem insertSubPkg_ok {p : CachePkgData κ} (h : (insertSubPkg env p.subPkgList i d).1 = .ok) :
    ((insertSubPkg env p.subPkgList i d).2 = p.subPkgList ∧ p.subPkgList.subPkgs ≠ []) ∨
      Takes i d p { p with subPkgList := (insertSubPkg env p.subPkgList i d).2 } := by
  unfold insertSubPkg at h ⊢
  cases hsplit : splitSubPkgs i p.subPkgList.subPkgs with
  | none =>
    refine .inl ⟨rfl, ?_⟩
    intro hnil
    rw [hnil] at hsplit
    cases hsplit
  | some pair =>
    rw [hsplit] at h
    by_cases halloc : env.callocSubPkg = true ∧ env.callocBuff = true
    · simp only [halloc, and_self, not_true_eq_false, if_false]
      exact .inr ⟨pair.1, pair.2, hsplit, rfl⟩
    · simp only [halloc, not_false_eq_true, if_true] at h
      cases h

variable {token : κ} {q : CachePkgData κ}

theorem insertEdit_new {pkgNum : UInt8} {room : Prop} [Decidable room] {found : Option (CachePkgData κ)}
    (h : (insertEdit env token pkgNum i d room found).2.new? = some q) :
    found = some q ∨ (insertEdit env token pkgNum i d room found).1 = .ok ∧
      Takes i d (found.getD (newPkg token pkgNum env.saveTime)) q := by
  cases found with
  | some p =>
    dsimp only [insertEdit] at h ⊢
    by_cases hret : (insertSubPkg env p.subPkgList i d).1 = .ok
    · rw [if_pos hret] at h ⊢
      cases h
      rcases insertSubPkg_ok hret with ⟨hsame, -⟩ | htakes
      · exact .inl (by rw [hsame])
      · exact .inr ⟨rfl, htakes⟩
    · rw [if_neg hret] at h
      by_cases hsize : p.subPkgList.curSize = 0
      · rw [if_pos hsize] at h
        cases h
      · rw [if_neg hsize] at h
        cases h
  | none =>
    dsimp only [insertEdit] at h ⊢
    by_cases hroom : room
    · rw [if_neg (not_not.mpr hroom)] at h ⊢
      by_cases halloc : env.callocPkg = false
      · rw [if_pos halloc] at h
        cases h
      rw [if_neg halloc] at h ⊢
      by_cases hret : (insertSubPkg env ⟨0, 0, []⟩ i d).1 = .ok
      · rw [if_pos hret] at h
        cases h
        have hnew : (insertSubPkg env (newPkg token pkgNum env.saveTime).subPkgList i d).1 = .ok := hret
        rcases insertSubPkg_ok hnew with ⟨-, hne⟩ | htakes
        · exact absurd rfl hne
        · exact .inr ⟨hret, htakes⟩
      · rw [if_neg hret] at h
        cases h
    · rw [if_pos hroom] at h
      cases h

theorem mergeEdit_new (env : RecvEnv) (found : Option (CachePkgData κ)) :
    (mergeEdit env found).2.2.new? = none := by
  cases found with
  | none => rfl
  | some p =>
    dsimp only [mergeEdit]
    split_ifs
    · rfl
    · rfl
    · rfl
    · rfl
    cases mergeLoop p.subPkgList.curDataLen.toNat 0 (fun _ => 0) p.subPkgList.subPkgs with
    | none => rfl
    | some data => rfl

/-! ## What an entry keeps -/

def total (subPkgs : List SubPkg) : ℕ := (subPkgs.map (·.buff.length)).sum

/-- The fragments are in index order and the counters count them, as far as their types reach. -/
structure CachePkgData.Sound (p : CachePkgData κ) : Prop where
  increasing : Increasing p.subPkgList.subPkgs
  curSize : p.subPkgList.curSize = p.subPkgList.subPkgs.length.toUInt8
  curDataLen : p.subPkgList.curDataLen = (total p.subPkgList.subPkgs).toUInt32

theorem total_insert (before after : List SubPkg) (s : SubPkg) :
    total (before ++ s :: after) = total (before ++ after) + s.buff.length := by
  simp only [total, List.map_append, List.map_cons, List.sum_append, List.sum_cons]
  omega

theorem newPkg_sound (token : κ) (pkgNum : UInt8) (t : UInt32) : (newPkg token pkgNum t).Sound where
  increasing := .nil
  curSize := rfl
  curDataLen := rfl

theorem Takes.sound {p : CachePkgData κ} (h : Takes i d p q) (hp : p.Sound) : q.Sound := by
  obtain ⟨before, after, hsplit, rfl⟩ := h
  obtain ⟨happ, hbefore, hafter⟩ := splitSubPkgs_some hsplit hp.increasing
  have hinc := hp.increasing
  have hsize := hp.curSize
  have hlen := hp.curDataLen
  rw [happ] at hinc hsize hlen
  constructor
  · exact increasing_insert hinc hbefore hafter
  · dsimp only
    rw [hsize, List.length_append, List.length_append, List.length_cons, ← Nat.add_assoc]
    exact (UInt8.ofNat_add _ 1).symm
  · dsimp only
    rw [hlen, total_insert]
    exact (UInt32.ofNat_add _ _).symm

/-! ## Calls as edits -/

variable [DecidableEq κ]

def PkgList.edit (token : κ) (e : Keyed.Edit (CachePkgData κ)) (l : PkgList κ) : PkgList κ :=
  ⟨match e with
    | .drop => l.size - 1
    | .add _ => l.size + 1
    | _ => l.size, e.apply (hasToken token) l.pkgs⟩

@[simp] theorem PkgList.edit_pkgs (token : κ) (e : Keyed.Edit (CachePkgData κ)) (l : PkgList κ) :
    (l.edit token e).pkgs = e.apply (hasToken token) l.pkgs := rfl

theorem insert_eq_edit (env : RecvEnv) (token : κ) (pkgNum i : UInt8) (hd : d ≠ []) (l : PkgList κ) :
    sleLinkLayerRecvPkgInsert env token pkgNum i d l =
      let l := clearTimeoutPkg env.clearTime l
      let r := insertEdit env token pkgNum i d (l.size < pkgMaxNum) (findPkgByToken token l)
      (r.1, l.edit token r.2) := by
  rw [sleLinkLayerRecvPkgInsert, if_neg hd]
  dsimp only
  generalize clearTimeoutPkg env.clearTime l = l
  cases hfind : findPkgByToken token l with
  | some p =>
    dsimp only [offerSubPkg, insertEdit]
    by_cases hret : (insertSubPkg env p.subPkgList i d).1 = .ok
    · rw [if_pos hret, if_pos hret]
      rfl
    · rw [if_neg hret, if_neg hret]
      by_cases hsize : p.subPkgList.curSize = 0
      · rw [if_pos hsize, if_pos hsize]
        rfl
      · rw [if_neg hsize, if_neg hsize]
        rfl
  | none =>
    have hnone := List.find?_eq_none.mp hfind
    dsimp only [insertEdit]
    by_cases hroom : l.size < pkgMaxNum
    · rw [if_neg (not_not.mpr hroom), if_neg (not_not.mpr hroom)]
      by_cases halloc : env.callocPkg = false
      · rw [if_pos halloc, if_pos halloc]
        rfl
      rw [if_neg halloc, if_neg halloc]
      -- the new entry is the first of its token
      dsimp only [offerSubPkg, newPkg, PkgList.edit, replacePkg, removePkg]
      by_cases hret : (insertSubPkg env ⟨0, 0, []⟩ i d).1 = .ok
      · rw [if_pos hret, if_pos hret, hret, Keyed.replaceFirst_append_right _ hnone]
        simp only [Keyed.replaceFirst, hasToken, decide_true, if_true, Keyed.Edit.apply]
      · rw [if_neg hret, if_neg hret, if_pos rfl, List.eraseP_append_right _ hnone]
        simp only [hasToken, decide_true, List.eraseP_cons_of_pos, List.append_nil, Keyed.Edit.apply,
          Nat.add_sub_cancel]
    · rw [if_pos hroom, if_pos hroom]
      rfl

theorem merge_eq_edit (env : RecvEnv) (token : κ) (l : PkgList κ) :
    sleLinkLayerRecvMergePkgs env token l =
      let r := mergeEdit env (findPkgByToken token l)
      (r.1, r.2.1, l.edit token r.2.2) := by
  unfold sleLinkLayerRecvMergePkgs sleLinkLayerRecvCompleteCheck
  cases findPkgByToken token l with
  | none => rfl
  | some p =>
    dsimp only [mergeEdit]
    generalize p.subPkgList.curSize = n
    rcases Nat.lt_trichotomy n.toNat p.pkgNum.toNat with hlt | heq | hgt
    · have hne : n ≠ p.pkgNum := fun h => by rw [h] at hlt; omega
      have hle : ¬ p.pkgNum < n := fun h => Nat.lt_asymm hlt h
      simp only [if_neg hne, if_pos (show n < p.pkgNum from hlt), if_neg hle]
      rfl
    · have heq : n = p.pkgNum := UInt8.toNat_inj.mp heq
      rw [heq, if_pos rfl, if_neg (not_not.mpr ⟨rfl, rfl⟩), if_neg (UInt8.lt_irrefl _), if_neg (UInt8.lt_irrefl _)]
      by_cases hlen : p.subPkgList.curDataLen.toNat = 0
      · rw [if_pos hlen, if_pos hlen]
        rfl
      by_cases halloc : env.callocData = false
      · rw [if_neg hlen, if_neg hlen, if_pos halloc, if_pos halloc]
        rfl
      rw [if_neg hlen, if_neg hlen, if_neg halloc, if_neg halloc]
      cases mergeLoop p.subPkgList.curDataLen.toNat 0 (fun _ => 0) p.subPkgList.subPkgs with
      | none => rfl
      | some data => rfl
    · have hne : n ≠ p.pkgNum := fun h => by rw [h] at hgt; omega
      have hlt : ¬ n < p.pkgNum := fun h => Nat.lt_asymm hgt h
      simp only [if_neg hne, if_neg hlt, if_pos (show p.pkgNum < n from hgt)]
      rfl

def target (env : RecvEnv) (token : κ) (pkgNum : UInt8) (l : PkgList κ) : CachePkgData κ :=
  (findPkgByToken token (clearTimeoutPkg env.clearTime l)).getD (newPkg token pkgNum env.saveTime)

theorem target_cases (env : RecvEnv) (token : κ) (pkgNum : UInt8) (l : PkgList κ) :
    (target env token pkgNum l ∈ l.pkgs ∧ (target env token pkgNum l).token = token) ∨
      target env token pkgNum l = newPkg token pkgNum env.saveTime := by
  unfold target
  cases hfind : findPkgByToken token (clearTimeoutPkg env.clearTime l) with
  | none => exact .inr rfl
  | some p =>
    have htoken := List.find?_some hfind
    exact .inl ⟨List.mem_of_mem_filter (List.mem_of_find?_eq_some hfind), by simpa [hasToken] using htoken⟩

variable {l : PkgList κ}

theorem mem_insert {pkgNum : UInt8} (hq : q ∈ (sleLinkLayerRecvPkgInsert env token pkgNum i d l).2.pkgs) :
    q ∈ l.pkgs ∨ (sleLinkLayerRecvPkgInsert env token pkgNum i d l).1 = .ok ∧
      Takes i d (target env token pkgNum l) q := by
  by_cases hd : d = []
  · rw [sleLinkLayerRecvPkgInsert, if_pos hd] at hq
    exact .inl hq
  rw [insert_eq_edit env token pkgNum i hd] at hq ⊢
  rcases Keyed.Edit.mem_apply hq with hold | hnew
  · exact .inl (List.mem_of_mem_filter hold)
  rcases insertEdit_new hnew with hfound | htaken
  · exact .inl (List.mem_of_mem_filter (List.mem_of_find?_eq_some hfound))
  · exact .inr htaken

theorem mem_merge (hq : q ∈ (sleLinkLayerRecvMergePkgs env token l).2.2.pkgs) : q ∈ l.pkgs := by
  rw [merge_eq_edit] at hq
  rcases Keyed.Edit.mem_apply hq with hold | hnew
  · exact hold
  · rw [mergeEdit_new] at hnew
    cases hnew

/-! ## Merging -/

theorem mergeLoop_holds {n curLen : ℕ} {data data' : ℕ → UInt8} {subPkgs : List SubPkg} {pre : List UInt8}
    (h : mergeLoop n curLen data subPkgs = some data') (hlen : pre.length = curLen) (hle : curLen ≤ n)
    (hpre : Holds data 0 pre) :
    curLen + total subPkgs ≤ n ∧ Holds data' 0 (pre ++ (subPkgs.map (·.buff)).flatten) := by
  induction subPkgs generalizing curLen data pre with
  | nil =>
    cases h
    exact ⟨hle, by simpa using hpre⟩
  | cons s subPkgs ih =>
    unfold mergeLoop at h
    cases hcpy : memcpyS data curLen (n - curLen) s.buff with
    | none =>
      rw [hcpy] at h
      cases h
    | some data₁ =>
      rw [hcpy] at h
      obtain ⟨hfits, hstore⟩ := memcpyS_eq_some hcpy
      have hpre' : Holds data₁ 0 (pre ++ s.buff) := by
        rw [hstore, ← hlen]
        have := hpre.store_append s.buff
        rwa [Nat.zero_add] at this
      obtain ⟨htotal, hholds⟩ := ih h (by rw [List.length_append, hlen]) (by omega) hpre'
      refine ⟨?_, ?_⟩
      · simp only [total, List.map_cons, List.sum_cons] at htotal ⊢
        omega
      · simpa using hholds

/-- A successful merge found an entry with as many fragments as it announced, as far as the counter
tells, and hands out their bytes in index order. -/
theorem merge_ok {out : List UInt8}
    (hsound : ∀ p ∈ l.pkgs, p.Sound) (h : (sleLinkLayerRecvMergePkgs env token l).2.1 = some out) :
    ∃ p, findPkgByToken token l = some p ∧ p.subPkgList.curSize = p.pkgNum ∧
      out = (p.subPkgList.subPkgs.map (·.buff)).flatten := by
  rw [merge_eq_edit] at h
  cases hfind : findPkgByToken token l with
  | none =>
    rw [hfind] at h
    cases h
  | some p =>
    rw [hfind] at h
    dsimp only [mergeEdit] at h
    split_ifs at h with hgt hlt hzero halloc
    have hsize : p.subPkgList.curSize = p.pkgNum := UInt8.le_antisymm (UInt8.not_lt.mp hgt) (UInt8.not_lt.mp hlt)
    refine ⟨p, rfl, hsize, ?_⟩
    cases hloop : mergeLoop p.subPkgList.curDataLen.toNat 0 (fun _ => 0) p.subPkgList.subPkgs with
    | none =>
      rw [hloop] at h
      cases h
    | some data =>
      rw [hloop] at h
      cases h
      obtain ⟨hle, hholds⟩ := mergeLoop_holds hloop List.length_nil (Nat.zero_le _) (load_zero _ 0)
      -- all fragments fit in the sum that the counter has, so it did not wrap
      have hcount := (hsound p (List.mem_of_find?_eq_some hfind)).curDataLen
      have htotal : p.subPkgList.curDataLen.toNat = total p.subPkgList.subPkgs := by
        have hmod : p.subPkgList.curDataLen.toNat = total p.subPkgList.subPkgs % 2 ^ 32 := by
          rw [hcount]
          exact UInt32.toNat_ofNat'
        have := Nat.mod_le (total p.subPkgList.subPkgs) (2 ^ 32)
        omega
      rw [List.nil_append, Holds, List.length_flatten, List.map_map] at hholds
      rw [htotal]
      exact hholds

/-! ## Runs -/

inductive CacheOp (κ : Type) where
  | insert (env : RecvEnv) (token : κ) (pkgNum pkgIdx : UInt8) (data : List UInt8)
  | merge (env : RecvEnv) (token : κ)
  | clearAll

def cacheStep (l : PkgList κ) : CacheOp κ → PkgList κ
  | .insert env token pkgNum pkgIdx data => (sleLinkLayerRecvPkgInsert env token pkgNum pkgIdx data l).2
  | .merge env token => (sleLinkLayerRecvMergePkgs env token l).2.2
  | .clearAll => sleLinkLayerClearAllCachePkg l

theorem step_forall {P : CachePkgData κ → Prop} {op : CacheOp κ} (hl : ∀ p ∈ l.pkgs, P p)
    (hnew : ∀ token pkgNum t, P (newPkg token pkgNum t))
    (htakes : ∀ env token pkgNum i d q, op = .insert env token pkgNum i d →
      (sleLinkLayerRecvPkgInsert env token pkgNum i d l).1 = .ok → Takes i d (target env token pkgNum l) q → P (target env token pkgNum l) → P q) :
    ∀ q ∈ (cacheStep l op).pkgs, P q := by
  intro q hq
  cases op with
  | insert env token pkgNum i d =>
    rcases mem_insert hq with hold | ⟨hok, hq⟩
    · exact hl q hold
    refine htakes env token pkgNum i d q rfl hok hq ?_
    rcases target_cases env token pkgNum l with ⟨hmem, -⟩ | heq
    · exact hl _ hmem
    · rw [heq]
      exact hnew token pkgNum env.saveTime
  | merge env token => exact hl q (mem_merge hq)
  | clearAll => cases hq

end
end IotConnect.Sle
