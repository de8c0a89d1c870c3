import IotConnect.Foundations.Traverse
import Mathlib.Algebra.GroupWithZero.Nat

/-! # Initialisation units

`fwk_init.c`: modules register lists of units, `InitAllUnit` initialises them level by level, and `FwkDeinitAll`
deinitialises them from the highest level down. Both go through the modules in the order in which they were registered,
and the units of a module are visited backwards by `FwkDeinitAll` only. Here are the functions, and what they come to:
one loop over the units in the order in which they are visited. -/
namespace IotConnect.FwkInit
open Traverse
set_option autoImplicit false

inductive FwkInitLevel
  | min
  | dep
  | comp
  | fwk
  | biz
  | max
  deriving DecidableEq

/-- From `FWK_INIT_LVL_MIN` to `FWK_INIT_LVL_MAX`. -/
def FwkInitLevel.all : List FwkInitLevel := [min, dep, comp, fwk, biz, max]

def FwkInitLevel.value : FwkInitLevel → ℕ
  | min => 0
  | dep => 1
  | comp => 2
  | fwk => 3
  | biz => 4
  | max => 5

theorem FwkInitLevel.mem_all (level : FwkInitLevel) : level ∈ all := by
  cases level <;> decide

/-- A unit, and whether it has an `initFunc` and a `deinitFunc`. -/
structure FwkInitUnit where
  level : FwkInitLevel
  initFunc : Bool
  deinitFunc : Bool
  deriving DecidableEq

/-- The units of the modules in the list `g_initList`. -/
abbrev Registry : Type := List (List FwkInitUnit)

abbrev UnitId : Type := ℕ × ℕ

abbrev Visit : Type := UnitId × FwkInitUnit

/-- The bit maps of the modules. `order` has the units that are initialised, in the order in which they were; `calls`
and `deinits` are the calls of `initFunc` and `deinitFunc`. -/
structure Fwk where
  initMap : UnitId → Bool
  order : List Visit
  calls : List Visit
  deinits : List Visit

namespace Fwk

def init : Fwk := ⟨fun _ => false, [], [], []⟩

def called (s : Fwk) (v : Visit) : Fwk := { s with calls := s.calls ++ [v] }

/-- `UtilsBitMapSet`. -/
def mark (s : Fwk) (v : Visit) : Fwk :=
  { s with initMap := Function.update s.initMap v.1 true, order := s.order ++ [v] }

/-- `UtilsBitMapReset` and the call of `deinitFunc`. -/
def deinitUnit (s : Fwk) (v : Visit) : Fwk :=
  { s with
    initMap := Function.update s.initMap v.1 false
    order := s.order.filter fun w => w.1 ≠ v.1
    deinits := if v.2.deinitFunc then s.deinits ++ [v] else s.deinits }

/-- The call of `initFunc`; `ok` says whether it succeeds. -/
def initUnit (ok : UnitId → Bool) (s : Fwk) (v : Visit) : Fwk × Bool :=
  if v.2.initFunc then
    if ok v.1 then ((s.called v).mark v, true) else (s.called v, false)
  else (s.mark v, true)

end Fwk

/-- `DoInitTargetLevelUnitNode` for the module with the number `node.2`. -/
def doInitTargetLevelUnitNode (ok : UnitId → Bool) (level : FwkInitLevel) (s : Fwk) (node : List FwkInitUnit × ℕ) :
    Fwk × Bool :=
  loop (fun s cur =>
    if cur.1.level = level then
      if s.initMap (node.2, cur.2) then (s, true) else s.initUnit ok ((node.2, cur.2), cur.1)
    else (s, true)) node.1.zipIdx s

def initAllUnit (reg : Registry) (ok : UnitId → Bool) (s : Fwk) : Fwk × Bool :=
  loop (fun s level => loop (doInitTargetLevelUnitNode ok level) reg.zipIdx s) FwkInitLevel.all s

/-- The places that `for (int32_t i = node->num - 1; i >= 0; --i)` visits: none where `num - 1` does not fit. -/
def countdown (units : List FwkInitUnit) : List (FwkInitUnit × ℕ) :=
  if units.length ≤ 2 ^ 31 then units.zipIdx.reverse else []

def doDeinitTargetLevelUnitNode (level : FwkInitLevel) (s : Fwk) (node : List FwkInitUnit × ℕ) : Fwk :=
  (countdown node.1).foldl (fun s cur =>
    if cur.1.level = level then
      if s.initMap (node.2, cur.2) then s.deinitUnit ((node.2, cur.2), cur.1) else s
    else s) s

def fwkDeinitAll (reg : Registry) (s : Fwk) : Fwk :=
  FwkInitLevel.all.reverse.foldl (fun s level =>
    reg.zipIdx.foldl (fun s node =>
      if node.1.length = 0 then s else doDeinitTargetLevelUnitNode level s node) s) s

/-! ## The units in the order in which they are visited -/

def unitsAt (level : FwkInitLevel) (node : List FwkInitUnit × ℕ) : List Visit :=
  (node.1.zipIdx.filter fun cur => cur.1.level = level).map fun cur => ((node.2, cur.2), cur.1)

/-- The units as `InitAllUnit` visits them. -/
def visits (reg : Registry) : List Visit := FwkInitLevel.all.flatMap fun level => reg.zipIdx.flatMap (unitsAt level)

/-- The units of a module at a level, as `FwkDeinitAll` visits them. -/
def unitsBack (level : FwkInitLevel) (node : List FwkInitUnit × ℕ) : List Visit :=
  if node.1.length ≤ 2 ^ 31 then (unitsAt level node).reverse else []

def visitsBack (reg : Registry) : List Visit :=
  FwkInitLevel.all.reverse.flatMap fun level => reg.zipIdx.flatMap (unitsBack level)

def visit (ok : UnitId → Bool) (s : Fwk) (v : Visit) : Fwk × Bool :=
  if s.initMap v.1 then (s, true) else s.initUnit ok v

def visitBack (s : Fwk) (v : Visit) : Fwk := if s.initMap v.1 then s.deinitUnit v else s

theorem doInitTargetLevelUnitNode_eq (ok : UnitId → Bool) (level : FwkInitLevel) (s : Fwk)
    (node : List FwkInitUnit × ℕ) :
    doInitTargetLevelUnitNode ok level s node = loop (visit ok) (unitsAt level node) s := by
  rw [unitsAt, loop_map, ← loop_filter]
  simp only [decide_eq_true_eq]
  rfl

theorem initAllUnit_eq (reg : Registry) (ok : UnitId → Bool) (s : Fwk) :
    initAllUnit reg ok s = loop (visit ok) (visits reg) s := by
  rw [visits, ← loop_flatMap, initAllUnit]
  congr 1
  funext s level
  rw [← loop_flatMap]
  congr 1
  funext s node
  exact doInitTargetLevelUnitNode_eq ok level s node

theorem doDeinitTargetLevelUnitNode_eq (level : FwkInitLevel) (s : Fwk) (node : List FwkInitUnit × ℕ) :
    doDeinitTargetLevelUnitNode level s node = (unitsBack level node).foldl visitBack s := by
  unfold doDeinitTargetLevelUnitNode countdown unitsBack
  split_ifs
  · rw [unitsAt, ← List.map_reverse, List.foldl_map, ← List.filter_reverse, List.foldl_filter]
    simp only [decide_eq_true_eq]
    rfl
  · rfl

theorem fwkDeinitAll_eq (reg : Registry) (s : Fwk) : fwkDeinitAll reg s = (visitsBack reg).foldl visitBack s := by
  rw [visitsBack, List.foldl_flatMap, fwkDeinitAll]
  congr 1
  funext s level
  rw [List.foldl_flatMap]
  congr 1
  funext s node
  rw [doDeinitTargetLevelUnitNode_eq]
  split_ifs with hnil
  · rw [List.length_eq_zero_iff] at hnil
    simp [unitsBack, unitsAt, hnil]
  · rfl

/-! ## What is visited -/

variable {v : Visit}

theorem mem_unitsAt {level : FwkInitLevel} {node : List FwkInitUnit × ℕ} :
    v ∈ unitsAt level node ↔ v.1.1 = node.2 ∧ v.2.level = level ∧ node.1[v.1.2]? = some v.2 := by
  simp only [unitsAt, List.mem_map, List.mem_filter, decide_eq_true_eq, Prod.exists, List.mem_zipIdx_iff_getElem?]
  constructor
  · rintro ⟨cur, i, ⟨hcur, hlevel⟩, rfl⟩
    exact ⟨rfl, hlevel, hcur⟩
  · rintro ⟨hnode, hlevel, hcur⟩
    exact ⟨v.2, v.1.2, ⟨hcur, hlevel⟩, by rw [← hnode]⟩

variable {reg : Registry}

theorem mem_visits : v ∈ visits reg ↔ ∃ units, reg[v.1.1]? = some units ∧ units[v.1.2]? = some v.2 := by
  simp only [visits, List.mem_flatMap, mem_unitsAt, Prod.exists, List.mem_zipIdx_iff_getElem?]
  constructor
  · rintro ⟨level, -, units, m, hunits, rfl, -, hv⟩
    exact ⟨units, hunits, hv⟩
  · rintro ⟨units, hunits, hv⟩
    exact ⟨v.2.level, v.2.level.mem_all, units, v.1.1, hunits, rfl, rfl, hv⟩

theorem visits_sorted (reg : Registry) : (visits reg).Pairwise fun v w => v.2.level.value ≤ w.2.level.value := by
  have hlevel : ∀ level, ∀ v ∈ reg.zipIdx.flatMap (unitsAt level), v.2.level = level := by
    intro level v hv
    obtain ⟨node, -, hv⟩ := List.mem_flatMap.mp hv
    exact (mem_unitsAt.mp hv).2.1
  rw [visits, List.pairwise_flatMap]
  constructor
  · intro level _
    apply List.pairwise_of_forall_mem_list
    intro v hv w hw
    exact Nat.le_of_eq (by rw [hlevel level v hv, hlevel level w hw])
  · have hall : FwkInitLevel.all.Pairwise fun a b => a.value ≤ b.value := by decide
    refine hall.imp ?_
    intro a b hab v hv w hw
    rw [hlevel a v hv, hlevel b w hw]
    exact hab

theorem zipIdx_pairwise (reg : Registry) : reg.zipIdx.Pairwise fun a b => a.2 < b.2 := by
  have hrange : (reg.zipIdx.map Prod.snd).Pairwise (· < ·) := by
    rw [List.zipIdx_map_snd, ← List.range_eq_range']
    exact List.pairwise_lt_range
  exact List.pairwise_map.mp hrange

theorem nodup_blocks (reg : Registry) {levels : List FwkInitLevel} (hlevels : levels.Nodup)
    {g : FwkInitLevel → List FwkInitUnit × ℕ → List Visit} (hsub : ∀ level node, g level node ⊆ unitsAt level node)
    (hg : ∀ level node, ((g level node).map Prod.fst).Nodup) :
    ((levels.flatMap fun level => reg.zipIdx.flatMap (g level)).map Prod.fst).Nodup := by
  rw [List.Nodup, List.pairwise_map, List.pairwise_flatMap]
  constructor
  · intro level _
    rw [List.pairwise_flatMap]
    constructor
    · intro node _
      exact List.pairwise_map.mp (hg level node)
    · refine (zipIdx_pairwise reg).imp ?_
      intro a b hab v hv w hw heq
      have hva := (mem_unitsAt.mp (hsub _ _ hv)).1
      have hwb := (mem_unitsAt.mp (hsub _ _ hw)).1
      rw [heq, hwb] at hva
      omega
  · refine hlevels.imp ?_
    intro a b hab v hv w hw heq
    obtain ⟨node, hnode, hv⟩ := List.mem_flatMap.mp hv
    obtain ⟨node', hnode', hw⟩ := List.mem_flatMap.mp hw
    obtain ⟨hm, hlevel, hunit⟩ := mem_unitsAt.mp (hsub _ _ hv)
    obtain ⟨hm', hlevel', hunit'⟩ := mem_unitsAt.mp (hsub _ _ hw)
    -- the same place in the same module holds one unit
    have hsame : node.1 = node'.1 := by
      have h1 := List.mem_zipIdx_iff_getElem?.mp hnode
      have h2 := List.mem_zipIdx_iff_getElem?.mp hnode'
      rw [← hm, heq, hm', h2] at h1
      exact (Option.some.inj h1).symm
    rw [hsame, heq, hunit'] at hunit
    apply hab
    rw [← hlevel, ← hlevel', Option.some.inj hunit]

theorem nodup_unitsAt (level : FwkInitLevel) (node : List FwkInitUnit × ℕ) :
    ((unitsAt level node).map Prod.fst).Nodup := by
  have hidx : (node.1.zipIdx.map Prod.snd).Nodup := by
    rw [List.zipIdx_map_snd]
    exact List.nodup_range'
  have hfilter : ((node.1.zipIdx.filter fun cur => cur.1.level = level).map Prod.snd).Nodup :=
    hidx.sublist (List.filter_sublist.map _)
  rw [unitsAt, List.map_map, List.Nodup, List.pairwise_map]
  refine (List.pairwise_map.mp hfilter).imp ?_
  intro a b hab heq
  have hpair : (node.2, a.2) = (node.2, b.2) := heq
  exact hab (Prod.mk.inj hpair).2

theorem nodup_visits (reg : Registry) : ((visits reg).map Prod.fst).Nodup :=
  nodup_blocks reg (by decide) (fun _ _ _ hv => hv) nodup_unitsAt

theorem unitsBack_subset (level : FwkInitLevel) (node : List FwkInitUnit × ℕ) :
    unitsBack level node ⊆ unitsAt level node := by
  intro v hv
  unfold unitsBack at hv
  split_ifs at hv
  · exact List.mem_reverse.mp hv
  · cases hv

theorem nodup_visitsBack (reg : Registry) : ((visitsBack reg).map Prod.fst).Nodup := by
  refine nodup_blocks reg (by decide) unitsBack_subset fun level node => ?_
  unfold unitsBack
  split_ifs
  · rw [List.map_reverse, List.nodup_reverse]
    exact nodup_unitsAt level node
  · exact List.nodup_nil

theorem mem_visitsBack : v ∈ visitsBack reg ↔
      ∃ units, reg[v.1.1]? = some units ∧ units[v.1.2]? = some v.2 ∧ units.length ≤ 2 ^ 31 := by
  simp only [visitsBack, unitsBack, List.mem_flatMap, List.mem_reverse, Prod.exists, List.mem_zipIdx_iff_getElem?]
  constructor
  · rintro ⟨level, -, units, m, hunits, hv⟩
    split_ifs at hv with hsmall
    · obtain ⟨rfl, -, hv⟩ := mem_unitsAt.mp (List.mem_reverse.mp hv)
      exact ⟨units, hunits, hv, hsmall⟩
    · cases hv
  · rintro ⟨units, hunits, hv, hsmall⟩
    refine ⟨v.2.level, v.2.level.mem_all, units, v.1.1, hunits, ?_⟩
    rw [if_pos hsmall]
    exact List.mem_reverse.mpr (mem_unitsAt.mpr ⟨rfl, rfl, hv⟩)

/-! ## What the loops do -/

def ready (ok : UnitId → Bool) (s : Fwk) (v : Visit) : Bool := s.initMap v.1 || !v.2.initFunc || ok v.1

def isNew (s : Fwk) (v : Visit) : Bool := !s.initMap v.1

/-- The units up to the first one that fails are initialised. -/
structure Passed (l : List Visit) (rd new : Visit → Bool) (s : Fwk) (r : Fwk × Bool) : Prop where
  ret : r.2 = l.all rd
  initMap : ∀ u, r.1.initMap u = true ↔ s.initMap u = true ∨ u ∈ (l.takeWhile rd).map Prod.fst
  order : r.1.order = s.order ++ (l.takeWhile rd).filter new
  calls : r.1.calls = s.calls ++
    ((l.takeWhile rd).filter (fun v => new v && v.2.initFunc) ++ (l.dropWhile rd).head?.toList)
  deinits : r.1.deinits = s.deinits

theorem initUnit_cases (ok : UnitId → Bool) (s : Fwk) (v : Visit) :
    ((!v.2.initFunc || ok v.1) = false ∧ s.initUnit ok v = (s.called v, false)) ∨
    ((!v.2.initFunc || ok v.1) = true ∧
      ∃ calls, calls = s.calls ++ (if v.2.initFunc then [v] else []) ∧
        s.initUnit ok v = ({ s.mark v with calls := calls }, true)) := by
  unfold Fwk.initUnit
  cases hfunc : v.2.initFunc with
  | false => exact .inr ⟨rfl, s.calls, by simp, rfl⟩
  | true =>
    cases hok : ok v.1 with
    | false => exact .inl ⟨rfl, rfl⟩
    | true => exact .inr ⟨rfl, _, rfl, rfl⟩

variable {s : Fwk}

theorem loop_visit_passed (ok : UnitId → Bool) {l : List Visit} (hl : (l.map Prod.fst).Nodup)
    {rd new : Visit → Bool} (hrd : ∀ v ∈ l, rd v = ready ok s v) (hnew : ∀ v ∈ l, new v = isNew s v) :
    Passed l rd new s (loop (visit ok) l s) := by
  induction l generalizing s with
  | nil => exact ⟨rfl, fun u => by simp [loop], by simp [loop], by simp [loop], rfl⟩
  | cons v l ih =>
    rw [List.map_cons, List.nodup_cons] at hl
    have hv := hrd v List.mem_cons_self
    have hvnew := hnew v List.mem_cons_self
    have hrd' := fun w hw => hrd w (List.mem_cons_of_mem v hw)
    have hnew' := fun w hw => hnew w (List.mem_cons_of_mem v hw)
    cases hinit : s.initMap v.1 with
    | true =>
      have hready : rd v = true := by rw [hv, ready, hinit]; rfl
      have hold : new v = false := by rw [hvnew, isNew, hinit]; rfl
      have hvisit : visit ok s v = (s, true) := by rw [visit, if_pos hinit]
      obtain ⟨h1, h2, h3, h4, h5⟩ := ih hl.2 hrd' hnew'
      rw [loop_cons_true hvisit]
      refine ⟨?_, fun u => ?_, ?_, ?_, h5⟩
      · rw [h1, List.all_cons, hready, Bool.true_and]
      · rw [h2, List.takeWhile_cons_of_pos hready, List.map_cons, List.mem_cons]
        constructor
        · exact Or.imp_right .inr
        · rintro (hu | rfl | hu)
          · exact .inl hu
          · exact .inl hinit
          · exact .inr hu
      · rw [h3, List.takeWhile_cons_of_pos hready, List.filter_cons_of_neg (by rw [hold]; exact Bool.false_ne_true)]
      · rw [h4, List.takeWhile_cons_of_pos hready, List.dropWhile_cons_of_pos hready,
          List.filter_cons_of_neg (by rw [hold]; exact Bool.false_ne_true)]
    | false =>
      have hfresh : new v = true := by rw [hvnew, isNew, hinit]; rfl
      have hrest : rd v = (!v.2.initFunc || ok v.1) := by rw [hv, ready, hinit, Bool.false_or]
      have hvisit : visit ok s v = s.initUnit ok v := by rw [visit, hinit]; rfl
      rcases initUnit_cases ok s v with ⟨hfail, heq⟩ | ⟨hsucc, calls, hcalls, heq⟩
      · have hnot : ¬ rd v = true := by rw [hrest, hfail]; exact Bool.false_ne_true
        rw [loop_cons_false (hvisit.trans heq)]
        refine ⟨?_, fun u => ?_, ?_, ?_, rfl⟩
        · rw [List.all_cons, Bool.eq_false_iff.mpr hnot, Bool.false_and]
        · simp [List.takeWhile_cons_of_neg hnot, Fwk.called]
        · simp [List.takeWhile_cons_of_neg hnot, Fwk.called]
        · simp [List.takeWhile_cons_of_neg hnot, List.dropWhile_cons_of_neg hnot, Fwk.called]
      · have hready : rd v = true := by rw [hrest, hsucc]
        have hother : ∀ w ∈ l, (Function.update s.initMap v.1 true) w.1 = s.initMap w.1 := by
          intro w hw
          apply Function.update_of_ne
          rintro hwv
          exact hl.1 (hwv ▸ List.mem_map_of_mem hw)
        obtain ⟨h1, h2, h3, h4, h5⟩ := ih (s := { s.mark v with calls := calls }) hl.2
          (fun w hw => by rw [hrd' w hw, ready, ready]; simp only [Fwk.mark]; rw [hother w hw])
          (fun w hw => by rw [hnew' w hw, isNew, isNew]; simp only [Fwk.mark]; rw [hother w hw])
        rw [loop_cons_true (hvisit.trans heq)]
        refine ⟨?_, fun u => ?_, ?_, ?_, h5⟩
        · rw [h1, List.all_cons, hready, Bool.true_and]
        · rw [h2, List.takeWhile_cons_of_pos hready, List.map_cons, List.mem_cons]
          simp only [Fwk.mark, Function.update_apply]
          split_ifs with hu
          · exact ⟨fun _ => .inr (.inl hu), fun _ => .inl rfl⟩
          · rw [or_iff_right (a := u = v.1) hu]
        · rw [h3, List.takeWhile_cons_of_pos hready, List.filter_cons_of_pos hfresh]
          simp [Fwk.mark]
        · rw [h4, List.takeWhile_cons_of_pos hready, List.dropWhile_cons_of_pos hready, hcalls]
          cases hfunc : v.2.initFunc <;> simp [hfresh, hfunc]

theorem initAllUnit_passed (reg : Registry) (ok : UnitId → Bool) (s : Fwk) :
    Passed (visits reg) (ready ok s) (isNew s) s (initAllUnit reg ok s) := by
  rw [initAllUnit_eq]
  exact loop_visit_passed ok (nodup_visits reg) (fun _ _ => rfl) fun _ _ => rfl

/-- The units of the list are deinitialised; `was` says which of them have their `deinitFunc` called. -/
structure Undone (l : List Visit) (was : Visit → Bool) (s s' : Fwk) : Prop where
  initMap : ∀ u, s'.initMap u = true ↔ s.initMap u = true ∧ u ∉ l.map Prod.fst
  order : ∀ w, w ∈ s'.order → w ∈ s.order ∧ (s.initMap w.1 = true → s'.initMap w.1 = true)
  deinits : s'.deinits = s.deinits ++ l.filter was
  nodup : (s.order.map Prod.fst).Nodup → (s'.order.map Prod.fst).Nodup

def isLive (s : Fwk) (v : Visit) : Bool := s.initMap v.1 && v.2.deinitFunc

theorem foldl_visitBack_undone {l : List Visit} (hl : (l.map Prod.fst).Nodup) {was : Visit → Bool}
    (hwas : ∀ v ∈ l, was v = isLive s v) : Undone l was s (l.foldl visitBack s) := by
  induction l generalizing s with
  | nil => exact ⟨fun u => by simp, fun w hw => ⟨hw, id⟩, by simp, id⟩
  | cons v l ih =>
    rw [List.map_cons, List.nodup_cons] at hl
    have hv := hwas v List.mem_cons_self
    have hwas' := fun w hw => hwas w (List.mem_cons_of_mem v hw)
    rw [List.foldl_cons]
    cases hinit : s.initMap v.1 with
    | false =>
      have hvisit : visitBack s v = s := by rw [visitBack, hinit]; rfl
      have hnot : ¬ was v = true := by rw [hv, isLive, hinit]; nofun
      obtain ⟨h1, h2, h3, h4⟩ := ih hl.2 hwas'
      rw [hvisit]
      refine ⟨fun u => ?_, h2, ?_, h4⟩
      · rw [h1, List.map_cons, List.mem_cons, not_or]
        refine and_congr_right fun hu => (and_iff_right ?_).symm
        rintro rfl
        rw [hinit] at hu
        cases hu
      · rw [h3, List.filter_cons_of_neg hnot]
    | true =>
      have hvisit : visitBack s v = s.deinitUnit v := by rw [visitBack, if_pos hinit]
      have hlive : was v = v.2.deinitFunc := by rw [hv, isLive, hinit, Bool.true_and]
      have hother : ∀ u, u ≠ v.1 → (s.deinitUnit v).initMap u = s.initMap u := fun u hu => Function.update_of_ne hu _ _
      obtain ⟨h1, h2, h3, h4⟩ := ih (s := s.deinitUnit v) hl.2 fun w hw => by
        rw [hwas' w hw, isLive, isLive, hother]
        intro hwv
        exact hl.1 (hwv ▸ List.mem_map_of_mem hw)
      rw [hvisit]
      refine ⟨fun u => ?_, fun w hw => ?_, ?_, fun hn => ?_⟩
      · rw [h1, List.map_cons, List.mem_cons, not_or, ← and_assoc]
        refine and_congr_left fun _ => ?_
        by_cases hu : u = v.1
        · subst hu
          simp [Fwk.deinitUnit]
        · rw [hother u hu, and_iff_left hu]
      · obtain ⟨hw, hkept⟩ := h2 w hw
        obtain ⟨hw, hne⟩ := List.mem_filter.mp hw
        refine ⟨hw, fun hinit' => hkept ?_⟩
        rw [hother _ (of_decide_eq_true hne)]
        exact hinit'
      · rw [h3, List.filter_cons, hlive]
        cases hfunc : v.2.deinitFunc <;> simp [Fwk.deinitUnit, hfunc]
      · exact h4 (hn.sublist (List.filter_sublist.map _))

theorem fwkDeinitAll_undone (reg : Registry) (s : Fwk) : Undone (visitsBack reg) (isLive s) s (fwkDeinitAll reg s) := by
  rw [fwkDeinitAll_eq]
  exact foldl_visitBack_undone (nodup_visitsBack reg) fun _ _ => rfl

/-! ## `FwkInitAll` -/

inductive FwkInitPolicy
  | block
  | failedReturn
  | failedDeinitAll
  deriving DecidableEq

/-- The passes of `FwkInitAll` under `FWK_INIT_POLICY_BLOCK`: the first one that succeeds is the last one. -/
def initPasses (reg : Registry) : List (UnitId → Bool) → Fwk → Fwk × Bool
  | [], s => (s, false)
  | ok :: passes, s =>
    match initAllUnit reg ok s with
    | (s', true) => (s', true)
    | (s', false) => initPasses reg passes s'

/-- The passes that `FwkInitAll` makes when the first one has the outcomes `ok` and the others `retries`. -/
def attempts (policy : FwkInitPolicy) (ok : UnitId → Bool) (retries : List (UnitId → Bool)) : List (UnitId → Bool) :=
  match policy with
  | .block => ok :: retries
  | .failedReturn => [ok]
  | .failedDeinitAll => [ok]

/-- `FwkInitAll`, and whether it gives `IOTC_OK`. Under `FWK_INIT_POLICY_BLOCK` it has not returned when all the passes
failed. -/
def fwkInitAll (reg : Registry) (policy : FwkInitPolicy) (ok : UnitId → Bool) (retries : List (UnitId → Bool))
    (s : Fwk) : Fwk × Bool :=
  match initPasses reg (attempts policy ok retries) s with
  | (s', ret) => (if policy = .failedDeinitAll then fwkDeinitAll reg s' else s', ret)

theorem initPasses_cons_true {ok : UnitId → Bool} {s' : Fwk} (h : initAllUnit reg ok s = (s', true))
    (passes : List (UnitId → Bool)) : initPasses reg (ok :: passes) s = (s', true) := by
  simp only [initPasses, h]

theorem initPasses_cons_false {ok : UnitId → Bool} {s' : Fwk}
    (h : initAllUnit reg ok s = (s', false)) (passes : List (UnitId → Bool)) :
    initPasses reg (ok :: passes) s = initPasses reg passes s' := by
  simp only [initPasses, h]

end IotConnect.FwkInit
