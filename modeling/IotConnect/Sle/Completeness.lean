import Mathlib.Data.List.Perm.Subperm
import IotConnect.Sle.Reassembly

/-! # When a merged SLE message is complete

An entry is complete when its counter equals the announced number of fragments. Strictly increasing indices
below that number are then all of them (`indices_eq_range`), so the merge is exact in every run in which each
fragment is numbered below the count of the entry it is offered to. Nothing in the code checks that. -/
namespace IotConnect.Sle
open Trace
set_option autoImplicit false

section
variable {κ : Type}

/-! ## Strictly increasing indices -/

theorem indices_subperm {p : CachePkgData κ} (hinc : Increasing p.subPkgList.subPkgs)
    (hlt : ∀ s ∈ p.subPkgList.subPkgs, s.index.toNat < p.pkgNum.toNat) :
    List.Subperm (p.subPkgList.subPkgs.map (·.index.toNat)) (List.range p.pkgNum.toNat) := by
  refine List.Nodup.subperm ?_ ?_
  · refine List.pairwise_map.mpr (hinc.imp fun {s t} hst => ?_)
    exact Nat.ne_of_lt hst
  · intro n hn
    obtain ⟨s, hs, rfl⟩ := List.mem_map.mp hn
    exact List.mem_range.mpr (hlt s hs)

theorem indices_eq_range {p : CachePkgData κ} (hinc : Increasing p.subPkgList.subPkgs)
    (hlt : ∀ s ∈ p.subPkgList.subPkgs, s.index.toNat < p.pkgNum.toNat)
    (hlen : p.subPkgList.subPkgs.length = p.pkgNum.toNat) :
    p.subPkgList.subPkgs.map (·.index.toNat) = List.range p.pkgNum.toNat := by
  have hperm := (indices_subperm hinc hlt).perm_of_length_le (by simp [hlen])
  refine hperm.eq_of_pairwise (fun a b _ _ hab hba => absurd hab (Nat.lt_asymm hba)) ?_ List.pairwise_lt_range
  exact List.pairwise_map.mpr (hinc.imp fun {s t} hst => hst)

/-! ## Entries in range -/

/-- The entry is sound, its indices are below its count and its bytes within `uint32_t`. -/
structure CachePkgData.InRange (p : CachePkgData κ) : Prop extends p.Sound where
  index_lt : ∀ s ∈ p.subPkgList.subPkgs, s.index.toNat < p.pkgNum.toNat
  total_lt : total p.subPkgList.subPkgs + 1 < 2 ^ 32

theorem newPkg_inRange (token : κ) (pkgNum : UInt8) (t : UInt32) : (newPkg token pkgNum t).InRange where
  toSound := newPkg_sound token pkgNum t
  index_lt := fun s hs => by cases hs
  total_lt := show total [] + 1 < 2 ^ 32 by decide

theorem Takes.index_ne {i : UInt8} {d : List UInt8} {p q : CachePkgData κ} (h : Takes i d p q) (hp : p.Sound) :
    ∀ s ∈ p.subPkgList.subPkgs, s.index ≠ i := by
  obtain ⟨before, after, hsplit, -⟩ := h
  obtain ⟨happ, hbefore, hafter⟩ := splitSubPkgs_some hsplit hp.increasing
  rw [happ]
  rintro s hs rfl
  rcases List.mem_append.mp hs with hs | hs
  · exact Nat.lt_irrefl _ (hbefore s hs)
  · exact Nat.lt_irrefl _ (hafter s hs)

theorem Takes.inRange {i : UInt8} {d : List UInt8} {p q : CachePkgData κ} (h : Takes i d p q) (hp : p.InRange)
    (hi : i.toNat < p.pkgNum.toNat) (hd : total p.subPkgList.subPkgs + d.length + 1 < 2 ^ 32) : q.InRange := by
  refine ⟨h.sound hp.toSound, ?_, ?_⟩
  · obtain ⟨before, after, hsplit, rfl⟩ := h
    obtain ⟨happ, -, -⟩ := splitSubPkgs_some hsplit hp.increasing
    have hlt := hp.index_lt
    rw [happ] at hlt
    intro s hs
    rcases List.mem_append.mp hs with hs | hs
    · exact hlt s (List.mem_append_left _ hs)
    rcases List.mem_cons.mp hs with rfl | hs
    · exact hi
    · exact hlt s (List.mem_append_right _ hs)
  · obtain ⟨before, after, hsplit, rfl⟩ := h
    obtain ⟨happ, -, -⟩ := splitSubPkgs_some hsplit hp.increasing
    rw [happ] at hd
    dsimp only
    rw [total_insert]
    exact hd

theorem CachePkgData.InRange.counters {p : CachePkgData κ} (hp : p.InRange) :
    p.subPkgList.curSize.toNat = p.subPkgList.subPkgs.length ∧
      p.subPkgList.curDataLen.toNat = total p.subPkgList.subPkgs := by
  have hle := (indices_subperm hp.increasing hp.index_lt).length_le
  rw [List.length_map, List.length_range] at hle
  have hnum := p.pkgNum.toNat_lt
  have htotal := hp.total_lt
  constructor
  · rw [hp.curSize]
    exact UInt8.toNat_ofNat_of_lt' (show _ < 256 by omega)
  · rw [hp.curDataLen]
    exact UInt32.toNat_ofNat_of_lt' (show _ < 4294967296 by omega)

/-! ## Every cache -/

variable [DecidableEq κ]

/-- The fragments are in index order, the counters are exact, and a merge hands out the fragments
`0 .. pkgNum - 1` in order. -/
def IndexExact (l : PkgList κ) : Prop :=
  (∀ p ∈ l.pkgs, Increasing p.subPkgList.subPkgs ∧
    p.subPkgList.curSize.toNat = p.subPkgList.subPkgs.length ∧
    p.subPkgList.curDataLen.toNat = total p.subPkgList.subPkgs) ∧
  ∀ env token out l', sleLinkLayerRecvMergePkgs env token l = (.ok, some out, l') →
    ∃ p, findPkgByToken token l = some p ∧
      p.subPkgList.subPkgs.map (·.index.toNat) = List.range p.pkgNum.toNat ∧
      out = (p.subPkgList.subPkgs.map (·.buff)).flatten

/-- A fragment that is taken is numbered below the count of the entry it is offered to, and the bytes of the entry
with the terminator of the merged message stay within `uint32_t`. One that is there already is not taken. -/
def IndexInRange (l : PkgList κ) : CacheOp κ → Prop
  | .insert env token pkgNum pkgIdx data =>
    (sleLinkLayerRecvPkgInsert env token pkgNum pkgIdx data l).1 = .ok →
      (∀ s ∈ (target env token pkgNum l).subPkgList.subPkgs, s.index ≠ pkgIdx) →
      pkgIdx.toNat < (target env token pkgNum l).pkgNum.toNat ∧
        total (target env token pkgNum l).subPkgList.subPkgs + data.length + 1 < 2 ^ 32
  | .merge _ _ => True
  | .clearAll => True

theorem step_inRange (l : PkgList κ) (op : CacheOp κ) (hop : IndexInRange l op) (hl : ∀ p ∈ l.pkgs, p.InRange) :
    ∀ p ∈ (cacheStep l op).pkgs, p.InRange := by
  refine step_forall hl newPkg_inRange ?_
  rintro env token pkgNum i d q rfl hok htakes htarget
  obtain ⟨hindex, htotal⟩ := hop hok (htakes.index_ne htarget.toSound)
  exact htakes.inRange htarget hindex htotal

/-- Whatever the fragments, the lists are sorted and the counters count as far as their types reach. -/
theorem run_sound (ops : List (CacheOp κ)) : ∀ p ∈ (run cacheStep (PkgList.init κ) ops).pkgs, p.Sound := by
  have hstep : ∀ (l : PkgList κ) op, True → (∀ p ∈ l.pkgs, p.Sound) → ∀ p ∈ (cacheStep l op).pkgs, p.Sound :=
    fun _ _ _ hl => step_forall hl newPkg_sound fun _ _ _ _ _ _ _ _ htakes hp => htakes.sound hp
  exact run_invariant hstep (along_of_forall (fun _ _ _ => trivial) _) fun _ hp => by cases hp

theorem indexExact_of_inRange {l : PkgList κ} (hl : ∀ p ∈ l.pkgs, p.InRange) : IndexExact l := by
  refine ⟨fun p hp => ⟨(hl p hp).increasing, (hl p hp).counters⟩, ?_⟩
  intro env token out l' hmerge
  obtain ⟨p, hfind, hsize, hout⟩ := merge_ok (fun p hp => (hl p hp).toSound) (congrArg (·.2.1) hmerge)
  have hp := hl p (List.mem_of_find?_eq_some hfind)
  refine ⟨p, hfind, indices_eq_range hp.increasing hp.index_lt ?_, hout⟩
  rw [← hsize]
  exact hp.counters.1.symm

end

/-! ## Every run -/

/-- **In every run whose fragments are taken only with a number below the count of their entry, the lists are sorted, the
counters exact, and a merge hands out all fragments in order.** -/
theorem sleReassembly_indexExact (ops : List (CacheOp UInt8))
    (hops : Along cacheStep IndexInRange (PkgList.init UInt8) ops) :
    IndexExact (run cacheStep (PkgList.init UInt8) ops) :=
  indexExact_of_inRange (run_invariant step_inRange hops fun _ hp => by cases hp)

def calmEnv : RecvEnv := ⟨0, 0, true, true, true, true⟩

def swappedOps : List (CacheOp UInt8) :=
  [.insert calmEnv 9 2 1 [0x62], .insert calmEnv 9 2 0 [0x61]]

theorem sleReassembly_indexExact_swapped :
    IndexExact (run cacheStep (PkgList.init UInt8) swappedOps) :=
  sleReassembly_indexExact swappedOps ⟨fun _ _ => by decide, fun _ _ => by decide, trivial⟩

/-- A lone fragment numbered 5 of a message announced with one fragment is merged as complete. -/
theorem sleReassembly_outOfRange :
    ¬ IndexExact (run cacheStep (PkgList.init UInt8) [.insert calmEnv 9 1 5 [0x61]]) := by
  rintro ⟨-, hmerge⟩
  obtain ⟨p, hfind, hindices, -⟩ := hmerge calmEnv 9 [0x61] _ rfl
  cases hfind
  revert hindices
  decide

end IotConnect.Sle
