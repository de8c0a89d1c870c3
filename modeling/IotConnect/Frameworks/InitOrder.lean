import IotConnect.Foundations.Trace
import IotConnect.Frameworks.FwkInit

/-! # The order of initialisation and deinitialisation

Runs of `FwkInitAll` and `FwkDeinitAll` over one list of modules. The units that are initialised and have a
`deinitFunc` are those of a front part of the list of visits (`Tidy`), also after passes that fail. `FwkDeinitAll`
visits the levels backwards and the modules forwards, so it is the mirror image of the initialisation exactly where the
units of one level are in one module. -/
namespace IotConnect.FwkInit
open Traverse Trace
set_option autoImplicit false

inductive Event
  | initAll (passes : List (UnitId → Bool))
  | deinitAll

def step (reg : Registry) (s : Fwk) : Event → Fwk
  | .initAll passes => (initPasses reg passes { s with calls := [] }).1
  | .deinitAll => fwkDeinitAll reg { s with deinits := [] }

/-- The parts of `FwkInitAll` under a policy. -/
def parts (policy : FwkInitPolicy) (ok : UnitId → Bool) (retries : List (UnitId → Bool)) : List Event :=
  .initAll (attempts policy ok retries) :: if policy = .failedDeinitAll then [.deinitAll] else []

variable {s : Fwk}

theorem initPasses_deinits (reg : Registry) (passes : List (UnitId → Bool)) (s : Fwk) :
    (initPasses reg passes s).1.deinits = s.deinits := by
  induction passes generalizing s with
  | nil => rfl
  | cons ok passes ih =>
    have hpass := (initAllUnit_passed reg ok s).deinits
    rcases heq : initAllUnit reg ok s with ⟨s', _ | _⟩
    · rw [initPasses_cons_false heq, ih]
      rw [heq] at hpass
      exact hpass
    · rw [initPasses_cons_true heq]
      rw [heq] at hpass
      exact hpass

theorem run_parts (reg : Registry) (policy : FwkInitPolicy) (ok : UnitId → Bool) (retries : List (UnitId → Bool))
    (hcalls : s.calls = []) (hdeinits : s.deinits = []) :
    run (step reg) s (parts policy ok retries) = (fwkInitAll reg policy ok retries s).1 := by
  have hs : { s with calls := [] } = s := by rw [← hcalls]
  have hstart : ∀ passes, step reg s (.initAll passes) = (initPasses reg passes s).1 := by
    intro passes
    rw [step, hs]
  have hkept : { (initPasses reg (attempts policy ok retries) s).1 with deinits := [] } =
      (initPasses reg (attempts policy ok retries) s).1 := by
    rw [← hdeinits, ← initPasses_deinits reg (attempts policy ok retries) s]
  unfold parts fwkInitAll
  split_ifs
  · rw [run_cons, run_cons, run_nil, hstart, step, hkept]
  · rw [run_cons, run_nil, hstart]

def hasDeinit (v : Visit) : Bool := v.2.deinitFunc

/-- What `e` does in the state `s`: inits from the low levels to the high ones; deinits of the units that are
initialised, each one once, the last one that was initialised first. -/
def MirrorStep (reg : Registry) (s : Fwk) (e : Event) : Prop :=
  match e with
  | .initAll _ => (step reg s e).calls.Pairwise fun v w => v.2.level.value ≤ w.2.level.value
  | .deinitAll =>
    (step reg s e).deinits = (s.order.filter hasDeinit).reverse ∧ ((step reg s e).deinits.map Prod.fst).Nodup

/-- The units with a `deinitFunc` that are initialised at one level are in one module, and the number of the units of
the module fits. -/
def OneModule (reg : Registry) (s : Fwk) : Prop :=
  (∀ v ∈ visits reg, isLive s v = true → v ∈ visitsBack reg) ∧
  ∀ v ∈ visits reg, ∀ w ∈ visits reg, isLive s v = true → isLive s w = true → v.2.level = w.2.level → v.1.1 = w.1.1

def Apart (reg : Registry) (s : Fwk) : Event → Prop
  | .initAll _ => True
  | .deinitAll => OneModule reg s

/-! ## The units that are initialised -/

structure Tidy (reg : Registry) (s : Fwk) : Prop where
  nodup : (s.order.map Prod.fst).Nodup
  inited : ∀ v ∈ s.order, s.initMap v.1 = true
  mem : ∀ v ∈ s.order, v ∈ visits reg
  front : ∃ l m, visits reg = l ++ m ∧ (∀ v ∈ l, s.initMap v.1 = true) ∧ (∀ v ∈ m, isLive s v = false) ∧
    s.order.filter hasDeinit = l.filter hasDeinit

theorem Tidy.init (reg : Registry) : Tidy reg Fwk.init :=
  ⟨List.nodup_nil, nofun, nofun, [], visits reg, rfl, nofun, fun _ _ => rfl, rfl⟩

section Pass
variable {reg : Registry} {ok : UnitId → Bool} {s : Fwk} {l m : List Visit} (hl : ∀ v ∈ l, s.initMap v.1 = true)
include hl

theorem ready_front : ∀ v ∈ l, ready ok s v = true := by
  intro v hv
  rw [ready, hl v hv]
  rfl

theorem takeWhile_visits (hsplit : visits reg = l ++ m) :
    (visits reg).takeWhile (ready ok s) = l ++ m.takeWhile (ready ok s) := by
  rw [hsplit]
  exact List.takeWhile_append_of_pos (ready_front hl)

theorem dropWhile_visits (hsplit : visits reg = l ++ m) :
    (visits reg).dropWhile (ready ok s) = m.dropWhile (ready ok s) := by
  rw [hsplit]
  exact List.dropWhile_append_of_pos (ready_front hl)

theorem filter_front (p : Visit → Bool) :
    (l ++ m).filter (fun v => isNew s v && p v) = m.filter fun v => isNew s v && p v := by
  rw [List.filter_append, List.filter_eq_nil_iff.mpr, List.nil_append]
  intro v hv
  rw [isNew, hl v hv]
  exact Bool.false_ne_true

end Pass

variable {reg : Registry}

theorem Tidy.pass (h : Tidy reg s) (ok : UnitId → Bool) : Tidy reg (initAllUnit reg ok s).1 := by
  obtain ⟨l, m, hsplit, hl, hm, horder⟩ := h.front
  obtain ⟨-, hmap, horder', -, -⟩ := initAllUnit_passed reg ok s
  generalize (initAllUnit reg ok s).1 = s' at hmap horder' ⊢
  have hnew : ((visits reg).takeWhile (ready ok s)).filter (isNew s) = (m.takeWhile (ready ok s)).filter (isNew s) := by
    have hfront := filter_front (m := m.takeWhile (ready ok s)) hl fun _ => true
    simp only [Bool.and_true] at hfront
    rw [takeWhile_visits hl hsplit, hfront]
  rw [takeWhile_visits hl hsplit] at hmap
  rw [hnew] at horder'
  have hids : ((l ++ m).map Prod.fst).Nodup := hsplit ▸ nodup_visits reg
  have htake : (m.takeWhile (ready ok s)).Sublist m := List.takeWhile_sublist _
  refine ⟨?_, fun v hv => ?_, fun v hv => ?_, ?_⟩
  · rw [horder', List.map_append, List.nodup_append]
    refine ⟨h.nodup, ?_, ?_⟩
    · have hmids : (m.map Prod.fst).Nodup := by
        rw [List.map_append] at hids
        exact (List.nodup_append.mp hids).2.1
      exact hmids.sublist ((List.filter_sublist.trans htake).map _)
    · intro u hu w hw heq
      obtain ⟨v, hv, rfl⟩ := List.mem_map.mp hu
      obtain ⟨x, hx, rfl⟩ := List.mem_map.mp hw
      have hfresh := (List.mem_filter.mp hx).2
      rw [isNew, ← heq, h.inited v hv] at hfresh
      cases hfresh
  · rw [hmap]
    rw [horder', List.mem_append] at hv
    rcases hv with hv | hv
    · exact .inl (h.inited v hv)
    · exact .inr (List.mem_map_of_mem (List.mem_append_right _ (List.mem_filter.mp hv).1))
  · rw [horder', List.mem_append] at hv
    rcases hv with hv | hv
    · exact h.mem v hv
    · rw [hsplit]
      exact List.mem_append_right _ (htake.subset (List.mem_filter.mp hv).1)
  · -- the front part goes up to the unit that failed
    refine ⟨l ++ m.takeWhile (ready ok s), m.dropWhile (ready ok s), ?_, fun v hv => ?_, fun v hv => ?_, ?_⟩
    · rw [List.append_assoc, List.takeWhile_append_dropWhile, hsplit]
    · exact (hmap v.1).mpr (.inr (List.mem_map_of_mem hv))
    · have hnot : v.1 ∉ (l ++ m.takeWhile (ready ok s)).map Prod.fst := by
        intro hin
        rw [← List.takeWhile_append_dropWhile (p := ready ok s) (l := m), ← List.append_assoc, List.map_append,
          List.nodup_append] at hids
        exact hids.2.2 v.1 hin v.1 (List.mem_map_of_mem hv) rfl
      have hsame : s'.initMap v.1 = s.initMap v.1 := by
        rw [Bool.eq_iff_iff, hmap, or_iff_left hnot]
      rw [isLive, hsame]
      exact hm v ((List.dropWhile_sublist _).subset hv)
    · rw [horder', List.filter_append, horder, List.filter_append, List.filter_filter]
      congr 1
      apply List.filter_congr
      intro v hv
      have hdead := hm v (htake.subset hv)
      rw [isLive] at hdead
      rw [hasDeinit, isNew]
      revert hdead
      cases s.initMap v.1 <;> cases v.2.deinitFunc <;> simp

theorem Tidy.passes {reg : Registry} (passes : List (UnitId → Bool)) {s : Fwk} (h : Tidy reg s) :
    Tidy reg (initPasses reg passes s).1 := by
  induction passes generalizing s with
  | nil => exact h
  | cons ok passes ih =>
    have hpass := h.pass ok
    rcases heq : initAllUnit reg ok s with ⟨s', _ | _⟩
    · rw [initPasses_cons_false heq]
      rw [heq] at hpass
      exact ih hpass
    · rw [initPasses_cons_true heq]
      rw [heq] at hpass
      exact hpass

theorem Tidy.deinit (h : Tidy reg s)
    (hall : ∀ v ∈ visits reg, isLive s v = true → v ∈ visitsBack reg) : Tidy reg (fwkDeinitAll reg s) := by
  obtain ⟨hmap, horder, -, hnodup⟩ := fwkDeinitAll_undone reg s
  generalize fwkDeinitAll reg s = s' at hmap horder hnodup ⊢
  have hinited : ∀ v ∈ s'.order, s'.initMap v.1 = true := by
    intro v hv
    obtain ⟨hv, hkept⟩ := horder v hv
    exact hkept (h.inited v hv)
  have hdead : ∀ v ∈ visits reg, isLive s' v = false := by
    intro v hv
    rw [Bool.eq_false_iff]
    intro hlive
    rw [isLive, Bool.and_eq_true, hmap] at hlive
    obtain ⟨⟨hinit, hnot⟩, hdeinit⟩ := hlive
    apply hnot
    apply List.mem_map_of_mem
    apply hall v hv
    rw [isLive, hinit, hdeinit]
    rfl
  have hmem : ∀ v ∈ s'.order, v ∈ visits reg := fun v hv => h.mem v (horder v hv).1
  refine ⟨hnodup h.nodup, hinited, hmem, [], visits reg, rfl, fun _ hv => absurd hv List.not_mem_nil, hdead, ?_⟩
  rw [List.filter_nil, List.filter_eq_nil_iff]
  intro v hv hdeinit
  have hlive := hdead v (hmem v hv)
  rw [isLive, hinited v hv, Bool.true_and] at hlive
  rw [hasDeinit, hlive] at hdeinit
  cases hdeinit

theorem Tidy.order_filter (h : Tidy reg s) : s.order.filter hasDeinit = (visits reg).filter (isLive s) := by
  obtain ⟨l, m, hsplit, hl, hm, horder⟩ := h.front
  have hback : m.filter (isLive s) = [] := by
    rw [List.filter_eq_nil_iff]
    intro v hv
    rw [hm v hv]
    nofun
  rw [horder, hsplit, List.filter_append, hback, List.append_nil]
  apply List.filter_congr
  intro v hv
  rw [hasDeinit, isLive, hl v hv, Bool.true_and]

/-! ## Inits -/

theorem pass_sorted {m : List Visit} (hm : m.Pairwise fun v w => v.2.level.value ≤ w.2.level.value)
    (rd p : Visit → Bool) {calls : List Visit}
    (hcalls : calls = (m.takeWhile rd).filter p ++ (m.dropWhile rd).head?.toList) :
    calls ⊆ m ∧ (calls.Pairwise fun v w => v.2.level.value ≤ w.2.level.value) ∧
      ∀ v ∈ calls, ∀ w ∈ m.dropWhile rd, v.2.level.value ≤ w.2.level.value := by
  have hparts := List.takeWhile_append_dropWhile (p := rd) (l := m)
  generalize m.takeWhile rd = t at hparts hcalls
  generalize m.dropWhile rd = d at hparts hcalls ⊢
  subst hparts
  obtain ⟨ht, hd, hcross⟩ := List.pairwise_append.mp hm
  have hsub : t.filter p ⊆ t := List.filter_subset_self t
  cases d with
  | nil =>
    have hplain : calls = t.filter p := by rw [hcalls]; exact List.append_nil _
    subst hplain
    exact ⟨fun v hv => List.mem_append_left _ (hsub hv), ht.filter _, fun _ _ _ => nofun⟩
  | cons u d =>
    have hlast : calls = t.filter p ++ [u] := hcalls
    subst hlast
    refine ⟨fun v hv => ?_, ?_, fun v hv w hw => ?_⟩
    · rcases List.mem_append.mp hv with hv | hv
      · exact List.mem_append_left _ (hsub hv)
      · rw [List.mem_singleton.mp hv]
        exact List.mem_append_right _ List.mem_cons_self
    · rw [List.pairwise_append]
      refine ⟨ht.filter _, List.pairwise_singleton _ _, fun v hv w hw => ?_⟩
      rw [List.mem_singleton.mp hw]
      exact hcross v (hsub hv) u List.mem_cons_self
    · rcases List.mem_append.mp hv with hv | hv
      · exact hcross v (hsub hv) w hw
      · rw [List.mem_singleton.mp hv]
        rcases List.mem_cons.mp hw with rfl | hw
        · exact Nat.le_refl _
        · exact (List.pairwise_cons.mp hd).1 w hw

theorem passes_sorted (passes : List (UnitId → Bool)) {l m : List Visit}
    (hsplit : visits reg = l ++ m) (hl : ∀ v ∈ l, s.initMap v.1 = true) :
    ∃ calls, (initPasses reg passes s).1.calls = s.calls ++ calls ∧ calls ⊆ m ∧
      calls.Pairwise fun v w => v.2.level.value ≤ w.2.level.value := by
  induction passes generalizing s l m with
  | nil => exact ⟨[], (List.append_nil _).symm, List.nil_subset _, List.Pairwise.nil⟩
  | cons ok passes ih =>
    obtain ⟨-, hmap, -, hcalls, -⟩ := initAllUnit_passed reg ok s
    rw [takeWhile_visits hl hsplit] at hmap hcalls
    rw [dropWhile_visits hl hsplit, filter_front hl] at hcalls
    have hm : m.Pairwise fun v w => v.2.level.value ≤ w.2.level.value := by
      have hall := visits_sorted reg
      rw [hsplit] at hall
      exact (List.pairwise_append.mp hall).2.1
    obtain ⟨hfirst, hpair, hcross⟩ := pass_sorted hm (ready ok s) _ rfl
    rcases heq : initAllUnit reg ok s with ⟨s', _ | _⟩
    · rw [heq] at hmap hcalls
      rw [initPasses_cons_false heq]
      have hsplit' : visits reg = (l ++ m.takeWhile (ready ok s)) ++ m.dropWhile (ready ok s) := by
        rw [List.append_assoc, List.takeWhile_append_dropWhile, hsplit]
      obtain ⟨calls, hcalls', hsub, hpair'⟩ := ih hsplit' fun v hv => (hmap v.1).mpr (.inr (List.mem_map_of_mem hv))
      rw [hcalls, List.append_assoc] at hcalls'
      refine ⟨_, hcalls', ?_, ?_⟩
      · apply List.append_subset.mpr ⟨hfirst, _⟩
        exact List.Subset.trans hsub (List.dropWhile_sublist _).subset
      · rw [List.pairwise_append]
        exact ⟨hpair, hpair', fun v hv w hw => hcross v hv w (hsub hw)⟩
    · rw [initPasses_cons_true heq]
      rw [heq] at hcalls
      exact ⟨_, hcalls, hfirst, hpair⟩

theorem initAll_sorted (s : Fwk) (passes : List (UnitId → Bool)) : MirrorStep reg s (.initAll passes) := by
  obtain ⟨calls, hcalls, -, hpair⟩ := passes_sorted passes (s := { s with calls := [] }) (m := visits reg)
    (List.nil_append _).symm nofun
  show List.Pairwise _ (initPasses reg passes { s with calls := [] }).1.calls
  rw [hcalls]
  exact hpair

/-! ## Deinits -/

theorem level_mirror_iff (reg : Registry) (p : Visit → Bool) (level : FwkInitLevel) :
    (reg.zipIdx.flatMap fun node => (unitsBack level node).filter p) =
        (reg.zipIdx.flatMap fun node => (unitsAt level node).filter p).reverse ↔
      (∀ node ∈ reg.zipIdx, (unitsAt level node).filter p ≠ [] → node.1.length ≤ 2 ^ 31) ∧
        ∀ a ∈ reg.zipIdx, ∀ b ∈ reg.zipIdx,
          (unitsAt level a).filter p ≠ [] → (unitsAt level b).filter p ≠ [] → a = b := by
  have hkey : ∀ node ∈ reg.zipIdx, ∀ v ∈ (unitsAt level node).filter p, v.1.1 = node.2 := fun node _ v hv =>
    (mem_unitsAt.mp (List.mem_filter.mp hv).1).1
  have hback : ∀ node, (unitsBack level node).filter p =
      if decide (node.1.length ≤ 2 ^ 31) = true then ((unitsAt level node).filter p).reverse else [] := by
    intro node
    simp only [unitsBack, decide_eq_true_eq]
    split_ifs
    · exact List.filter_reverse
    · rfl
  have hiff := flatMap_reverse_eq_iff (zipIdx_pairwise reg) hkey fun node => decide (node.1.length ≤ 2 ^ 31)
  simp only [decide_eq_true_eq] at hiff hback
  simp only [hback]
  exact hiff

theorem mirror_iff (reg : Registry) (s : Fwk) :
    (visitsBack reg).filter (isLive s) = ((visits reg).filter (isLive s)).reverse ↔ OneModule reg s := by
  have hlevels : FwkInitLevel.all.reverse.Nodup := by decide
  have hkey : ∀ level, ∀ v ∈ reg.zipIdx.flatMap fun node => (unitsAt level node).filter (isLive s),
      v.2.level = level := by
    intro level v hv
    obtain ⟨node, -, hv⟩ := List.mem_flatMap.mp hv
    exact (mem_unitsAt.mp (List.mem_filter.mp hv).1).2.1
  have hkey' : ∀ level, ∀ v ∈ reg.zipIdx.flatMap fun node => (unitsBack level node).filter (isLive s),
      v.2.level = level := by
    intro level v hv
    obtain ⟨node, -, hv⟩ := List.mem_flatMap.mp hv
    exact (mem_unitsAt.mp (unitsBack_subset level node (List.mem_filter.mp hv).1)).2.1
  have hback : (visitsBack reg).filter (isLive s) = FwkInitLevel.all.reverse.flatMap fun level =>
      reg.zipIdx.flatMap fun node => (unitsBack level node).filter (isLive s) := by
    simp only [visitsBack, List.filter_flatMap]
  have hforth : ((visits reg).filter (isLive s)).reverse = FwkInitLevel.all.reverse.flatMap fun level =>
      (reg.zipIdx.flatMap fun node => (unitsAt level node).filter (isLive s)).reverse := by
    simp only [visits, List.filter_flatMap, List.reverse_flatMap, Function.comp_def]
  rw [hback, hforth, flatMap_eq_iff hlevels (fun v => v.2.level) (fun level _ => hkey' level)
    fun level _ v hv => hkey level v (List.mem_reverse.mp hv)]
  simp only [level_mirror_iff]
  -- a unit that is live is one in a block that is not empty
  have hblock : ∀ v ∈ visits reg, isLive s v = true →
      ∃ units, (units, v.1.1) ∈ reg.zipIdx ∧ v ∈ (unitsAt v.2.level (units, v.1.1)).filter (isLive s) := by
    intro v hv hlive
    obtain ⟨units, hunits, hunit⟩ := mem_visits.mp hv
    exact ⟨units, List.mem_zipIdx_iff_getElem?.mpr hunits,
      List.mem_filter.mpr ⟨mem_unitsAt.mpr ⟨rfl, rfl, hunit⟩, hlive⟩⟩
  have hunit : ∀ level, ∀ node ∈ reg.zipIdx, (unitsAt level node).filter (isLive s) ≠ [] →
      ∃ v ∈ visits reg, isLive s v = true ∧ v.2.level = level ∧ v.1.1 = node.2 ∧ reg[v.1.1]? = some node.1 := by
    intro level node hnode hne
    obtain ⟨v, hv⟩ := List.exists_mem_of_ne_nil _ hne
    obtain ⟨hv, hlive⟩ := List.mem_filter.mp hv
    obtain ⟨hm, hlevel, hunit⟩ := mem_unitsAt.mp hv
    have hget : reg[v.1.1]? = some node.1 := by
      rw [hm]
      exact List.mem_zipIdx_iff_getElem?.mp hnode
    exact ⟨v, mem_visits.mpr ⟨node.1, hget, hunit⟩, hlive, hlevel, hm, hget⟩
  constructor
  · intro hall
    constructor
    · intro v hv hlive
      obtain ⟨units, hnode, hin⟩ := hblock v hv hlive
      have hsmall := (hall v.2.level (by simp [FwkInitLevel.mem_all])).1 _ hnode (List.ne_nil_of_mem hin)
      have hget := (mem_unitsAt.mp (List.mem_filter.mp hin).1).2.2
      exact mem_visitsBack.mpr ⟨units, List.mem_zipIdx_iff_getElem?.mp hnode, hget, hsmall⟩
    · intro v hv w hw hvlive hwlive hlevel
      obtain ⟨units, hnode, hin⟩ := hblock v hv hvlive
      obtain ⟨units', hnode', hin'⟩ := hblock w hw hwlive
      rw [← hlevel] at hin'
      have hsame := (hall v.2.level (by simp [FwkInitLevel.mem_all])).2 _ hnode _ hnode' (List.ne_nil_of_mem hin)
        (List.ne_nil_of_mem hin')
      exact (Prod.mk.inj hsame).2
  · rintro ⟨hsmall, hone⟩ level -
    constructor
    · intro node hnode hne
      obtain ⟨v, hv, hlive, -, -, hget⟩ := hunit level node hnode hne
      obtain ⟨units, hget', -, hlen⟩ := mem_visitsBack.mp (hsmall v hv hlive)
      rw [hget] at hget'
      exact Option.some.inj hget' ▸ hlen
    · intro a ha b hb hna hnb
      obtain ⟨v, hv, hvlive, hvlevel, hva, -⟩ := hunit level a ha hna
      obtain ⟨w, hw, hwlive, hwlevel, hwb, -⟩ := hunit level b hb hnb
      have htag := hone v hv w hw hvlive hwlive (hvlevel.trans hwlevel.symm)
      rw [hva, hwb] at htag
      exact eq_of_tag_eq (zipIdx_pairwise reg) ha hb htag

theorem deinitAll_mirror_iff (h : Tidy reg s) : MirrorStep reg s .deinitAll ↔ OneModule reg s := by
  have hdeinits : (step reg s .deinitAll).deinits = (visitsBack reg).filter (isLive s) :=
    (fwkDeinitAll_undone reg { s with deinits := [] }).deinits
  have hnodup : (((visitsBack reg).filter (isLive s)).map Prod.fst).Nodup :=
    (nodup_visitsBack reg).sublist (List.filter_sublist.map _)
  rw [MirrorStep, hdeinits, h.order_filter, and_iff_left hnodup]
  exact mirror_iff reg s

theorem Tidy.congr {s' : Fwk} (h : Tidy reg s) (hmap : s'.initMap = s.initMap)
    (horder : s'.order = s.order) : Tidy reg s' := by
  obtain ⟨h1, h2, h3, h4⟩ := h
  rw [← horder] at h1 h2 h3 h4
  rw [← hmap] at h2
  refine ⟨h1, h2, h3, ?_⟩
  simpa only [isLive, hmap] using h4

theorem Tidy.step {reg : Registry} {s : Fwk} (h : Tidy reg s) {e : Event} (he : Apart reg s e) :
    Tidy reg (step reg s e) := by
  cases e with
  | initAll passes => exact Tidy.passes passes (h.congr rfl rfl)
  | deinitAll =>
    have hcleared : Tidy reg { s with deinits := [] } := h.congr rfl rfl
    exact hcleared.deinit he.1

theorem mirrorStep_iff (h : Tidy reg s) (e : Event) : MirrorStep reg s e ↔ Apart reg s e := by
  cases e with
  | initAll passes => exact iff_of_true (initAll_sorted s passes) trivial
  | deinitAll => exact deinitAll_mirror_iff h

/-- In every run of `FwkInitAll` and `FwkDeinitAll`, whatever units succeed: the inits go from the low levels to the
high ones, and the deinits are their mirror image, exactly when each time the units to deinitialise at one level are in
one module. -/
theorem init_mirrored_iff (reg : Registry) (es : List Event) :
    Along (step reg) (MirrorStep reg) Fwk.init es ↔ Along (step reg) (Apart reg) Fwk.init es := by
  have hstep : ∀ s e, Apart reg s e → Tidy reg s → Tidy reg (step reg s e) := fun s e he h => h.step he
  have hiff : ∀ s e, Tidy reg s → (MirrorStep reg s e ↔ Apart reg s e) := fun s e h => mirrorStep_iff h e
  exact along_step_iff hstep hiff (Tidy.init reg) es

/-- Two modules with a unit each at one level: the first one to be initialised is deinitialised first. -/
theorem modules_not_mirrored :
    ¬ Along (step [[⟨.biz, true, true⟩], [⟨.biz, true, true⟩]]) (MirrorStep [[⟨.biz, true, true⟩], [⟨.biz, true, true⟩]])
      Fwk.init [.initAll [fun _ => true], .deinitAll] := by
  rintro ⟨-, ⟨hmirror, -⟩, -⟩
  revert hmirror
  decide

end IotConnect.FwkInit
