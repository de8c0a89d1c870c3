import Mathlib.Data.List.TakeWhile
import IotConnect.Foundations.Trace
import IotConnect.Frameworks.FwkInit

/-! # Start-up and shutdown of the framework

The policies of `FwkInitAll`, and `IotcFwkMainTaskBody` of `fwk_main.c` with the requests that other tasks make while it
is executed. `FWK_INIT_FAILED_DEINIT_ALL` deinitialises the units after a success too, and the `continue` after a failed
`FwkInitAll` goes to the test of the loop, past `FwkDeinitAll`. -/
namespace IotConnect.FwkMain
open Trace FwkInit
set_option autoImplicit false

/-! ## Policies -/

def AllInited (reg : Registry) (s : Fwk) : Prop := ∀ v ∈ visits reg, s.initMap v.1 = true

def NoneInited (reg : Registry) (s : Fwk) : Prop := ∀ v ∈ visits reg, s.initMap v.1 = false

/-- What a return of `FwkInitAll` says about the units. -/
structure PolicyKept (reg : Registry) (policy : FwkInitPolicy) (r : Fwk × Bool) : Prop where
  ok : r.2 = true → AllInited reg r.1
  failed : policy = .failedDeinitAll → r.2 = false → NoneInited reg r.1

/-- Under `FWK_INIT_FAILED_DEINIT_ALL`: where no init fails, no unit is in a module that `FwkDeinitAll` visits; where one
fails, those that are initialised up to there are in such modules. -/
def PolicyFits (reg : Registry) (policy : FwkInitPolicy) (ok : UnitId → Bool) (s : Fwk) : Prop :=
  policy = .failedDeinitAll →
    if (visits reg).all (ready ok s) then ∀ v ∈ visits reg, v ∉ visitsBack reg
    else ∀ v ∈ visits reg, s.initMap v.1 = true ∨ v ∈ (visits reg).takeWhile (ready ok s) → v ∈ visitsBack reg

variable {reg : Registry} {v : Visit}

theorem mem_of_id_mem {l : List Visit} (hv : v ∈ visits reg) (hl : l ⊆ visits reg)
    (hid : v.1 ∈ l.map Prod.fst) : v ∈ l := by
  obtain ⟨w, hw, hid⟩ := List.mem_map.mp hid
  have hsame : v = w := List.inj_on_of_nodup_map (nodup_visits reg) hv (hl hw) hid.symm
  exact hsame ▸ hw

theorem visitsBack_subset (reg : Registry) : visitsBack reg ⊆ visits reg := by
  intro v hv
  obtain ⟨units, hunits, hunit, -⟩ := mem_visitsBack.mp hv
  exact mem_visits.mpr ⟨units, hunits, hunit⟩

variable {s : Fwk}

theorem initAllUnit_initMap_iff {ok : UnitId → Bool} (hv : v ∈ visits reg) :
    (initAllUnit reg ok s).1.initMap v.1 = true ↔
      s.initMap v.1 = true ∨ v ∈ (visits reg).takeWhile (ready ok s) := by
  rw [(initAllUnit_passed reg ok s).initMap]
  refine or_congr_right ⟨fun hid => ?_, fun hin => List.mem_map_of_mem hin⟩
  exact mem_of_id_mem hv (List.takeWhile_sublist _).subset hid

theorem fwkDeinitAll_initMap_iff (hv : v ∈ visits reg) :
    (fwkDeinitAll reg s).initMap v.1 = true ↔ s.initMap v.1 = true ∧ v ∉ visitsBack reg := by
  rw [(fwkDeinitAll_undone reg s).initMap]
  refine and_congr_right fun _ => not_congr ⟨fun hid => ?_, fun hin => List.mem_map_of_mem hin⟩
  exact mem_of_id_mem hv (visitsBack_subset reg) hid

theorem initAllUnit_allInited {ok : UnitId → Bool} (h : (initAllUnit reg ok s).2 = true) :
    AllInited reg (initAllUnit reg ok s).1 := by
  intro v hv
  rw [(initAllUnit_passed reg ok s).ret, List.all_eq_true] at h
  rw [initAllUnit_initMap_iff hv, List.takeWhile_eq_self_iff.mpr h]
  exact .inr hv

theorem initPasses_allInited (passes : List (UnitId → Bool))
    (h : (initPasses reg passes s).2 = true) : AllInited reg (initPasses reg passes s).1 := by
  induction passes generalizing s with
  | nil => cases h
  | cons ok passes ih =>
    rcases heq : initAllUnit reg ok s with ⟨s', _ | _⟩
    · rw [initPasses_cons_false heq] at h ⊢
      exact ih h
    · rw [initPasses_cons_true heq]
      have hall : AllInited reg (initAllUnit reg ok s).1 := initAllUnit_allInited (by rw [heq])
      rw [heq] at hall
      exact hall

theorem initPasses_singleton (reg : Registry) (ok : UnitId → Bool) (s : Fwk) :
    initPasses reg [ok] s = initAllUnit reg ok s := by
  rcases heq : initAllUnit reg ok s with ⟨s', _ | _⟩
  · exact initPasses_cons_false heq []
  · exact initPasses_cons_true heq []

theorem policyKept_of_ne {policy : FwkInitPolicy} (hpolicy : policy ≠ .failedDeinitAll)
    (ok : UnitId → Bool) (retries : List (UnitId → Bool)) (s : Fwk) :
    PolicyKept reg policy (fwkInitAll reg policy ok retries s) := by
  simp only [fwkInitAll, if_neg hpolicy]
  exact ⟨initPasses_allInited _, fun h => absurd h hpolicy⟩

theorem policyKept_deinitAll_iff (reg : Registry) (ok : UnitId → Bool) (retries : List (UnitId → Bool)) (s : Fwk) :
    PolicyKept reg .failedDeinitAll (fwkInitAll reg .failedDeinitAll ok retries s) ↔
      PolicyFits reg .failedDeinitAll ok s := by
  have hcall : fwkInitAll reg .failedDeinitAll ok retries s =
      (fwkDeinitAll reg (initAllUnit reg ok s).1, (initAllUnit reg ok s).2) := by
    simp only [fwkInitAll, attempts, initPasses_singleton, if_true]
  have hret := (initAllUnit_passed reg ok s).ret
  have hleft : ∀ v ∈ visits reg, (fwkDeinitAll reg (initAllUnit reg ok s).1).initMap v.1 = true ↔
      (s.initMap v.1 = true ∨ v ∈ (visits reg).takeWhile (ready ok s)) ∧ v ∉ visitsBack reg := by
    intro v hv
    rw [fwkDeinitAll_initMap_iff hv, initAllUnit_initMap_iff hv]
  rw [hcall, hret]
  unfold PolicyFits
  cases hall : (visits reg).all (ready ok s) with
  | true =>
    have hfront : (visits reg).takeWhile (ready ok s) = visits reg :=
      List.takeWhile_eq_self_iff.mpr (List.all_eq_true.mp hall)
    rw [hfront] at hleft
    constructor
    · intro hkept _ v hv
      exact ((hleft v hv).mp (hkept.ok rfl v hv)).2
    · intro hfits
      exact ⟨fun _ v hv => (hleft v hv).mpr ⟨.inr hv, hfits rfl v hv⟩, fun _ => nofun⟩
  | false =>
    constructor
    · intro hkept _ v hv hinit
      by_contra hnot
      have hgone := hkept.failed rfl rfl v hv
      rw [(hleft v hv).mpr ⟨hinit, hnot⟩] at hgone
      cases hgone
    · intro hfits
      refine ⟨nofun, fun _ _ v hv => ?_⟩
      rw [Bool.eq_false_iff]
      intro hinit
      obtain ⟨hinit, hnot⟩ := (hleft v hv).mp hinit
      exact hnot (hfits rfl v hv hinit)

theorem policyKept_iff (reg : Registry) (policy : FwkInitPolicy) (ok : UnitId → Bool)
    (retries : List (UnitId → Bool)) (s : Fwk) :
    PolicyKept reg policy (fwkInitAll reg policy ok retries s) ↔ PolicyFits reg policy ok s := by
  by_cases hpolicy : policy = .failedDeinitAll
  · subst hpolicy
    exact policyKept_deinitAll_iff reg ok retries s
  · exact iff_of_true (policyKept_of_ne hpolicy ok retries s) fun h => absurd h hpolicy

/-! ## The main task -/

inductive MainEvent
  | mainInitialized
  | mainReset
  | mainQuit
  deriving DecidableEq

/-- Where the task body is; `test failed` is the condition of the loop, reached by `continue` if `failed`. -/
inductive Place
  | initAll
  | mainLoop
  | publish
  | deinitAll
  | test (failed : Bool)
  | exited
  deriving DecidableEq

/-- `passes` has the outcomes of the inits for each call of `FwkInitAll` since the last `FwkDeinitAll`. -/
structure Main where
  fwk : Fwk
  existsFlag : Bool
  place : Place
  published : List MainEvent
  passes : List (UnitId → Bool)

/-- `IotcFwkMain` has created the task. -/
def Main.start : Main := ⟨Fwk.init, true, .initAll, [], []⟩

/-- A step of the main task, where `ok` says which inits succeed, or a request. -/
inductive Request
  | task (ok : UnitId → Bool)
  | stop (locked : Bool)
  | reset
  | restore

/-- `FwkInitAll` in the task body. -/
def Main.tryInit (reg : Registry) (ok : UnitId → Bool) (s : Main) : Main :=
  let passes := s.passes ++ [ok]
  match fwkInitAll reg .failedReturn ok [] s.fwk with
  | (fwk, true) => { s with fwk, passes, place := .mainLoop, published := s.published ++ [.mainInitialized] }
  | (fwk, false) => { s with fwk, passes, place := .test true }

def iotcFwkMainTaskBody (reg : Registry) (ok : UnitId → Bool) (s : Main) : Main :=
  match s.place with
  | .initAll => s.tryInit reg ok
  | .mainLoop => { s with place := .publish }
  | .publish =>
    { s with place := .deinitAll, published := s.published ++ [if s.existsFlag then .mainReset else .mainQuit] }
  | .deinitAll => { s with fwk := fwkDeinitAll reg s.fwk, place := .test false, passes := [] }
  | .test _ => { s with place := if s.existsFlag then .initAll else .exited }
  | .exited => s

/-- The main loop may return at any time here, so `FwkMainLoopExit`, which is all that a reset or a restore comes to,
adds nothing. `MainTaskExistsFlagChange` does nothing without the lock. -/
def step (reg : Registry) (s : Main) : Request → Main
  | .task ok => iotcFwkMainTaskBody reg ok s
  | .stop locked => if locked then { s with existsFlag := false } else s
  | .reset => s
  | .restore => s

def ExitClean (reg : Registry) (s : Main) (r : Request) : Prop :=
  (step reg s r).place = .exited → NoneInited reg (step reg s r).fwk

/-- The first unit that is visited has an `initFunc`, and it fails. -/
def FailsFirst (reg : Registry) (ok : UnitId → Bool) : Prop :=
  ∀ v ∈ (visits reg).head?, v.2.initFunc = true ∧ ok v.1 = false

/-- The calls of `FwkInitAll` since the last `FwkDeinitAll` all failed at the first unit; and if one succeeded before,
every unit is in a module that `FwkDeinitAll` visits. -/
structure FailedEarly (reg : Registry) (passes : List (UnitId → Bool)) (published : List MainEvent) : Prop where
  first : ∀ ok ∈ passes, FailsFirst reg ok
  visited : .mainInitialized ∈ published → ∀ v ∈ visits reg, v ∈ visitsBack reg

/-- A stop request is in force at the test of the loop only where all was deinitialised, or the inits failed early. -/
def StopFits (reg : Registry) (s : Main) : Request → Prop
  | .task _ => ∀ failed, s.place = .test failed → s.existsFlag = false → FailedEarly reg s.passes s.published
  | _ => True

theorem takeWhile_eq_nil_iff_head? {α : Type} {p : α → Bool} {l : List α} :
    l.takeWhile p = [] ↔ ∀ a ∈ l.head?, p a = false := by
  cases l with
  | nil => simp
  | cons a l => cases hp : p a <;> simp [hp]

/-- A pass leaves no unit initialised if none was and it fails at the first one. -/
theorem noneInited_pass_iff (ok : UnitId → Bool) :
    NoneInited reg (initAllUnit reg ok s).1 ↔ NoneInited reg s ∧ FailsFirst reg ok := by
  have hpass : NoneInited reg (initAllUnit reg ok s).1 ↔
      NoneInited reg s ∧ (visits reg).takeWhile (ready ok s) = [] := by
    constructor
    · intro hnone
      have hnot : ∀ v ∈ visits reg, ¬ (s.initMap v.1 = true ∨ v ∈ (visits reg).takeWhile (ready ok s)) := by
        intro v hv hin
        rw [← initAllUnit_initMap_iff hv, hnone v hv] at hin
        cases hin
      refine ⟨fun v hv => Bool.eq_false_iff.mpr fun hin => hnot v hv (.inl hin), ?_⟩
      exact List.eq_nil_iff_forall_not_mem.mpr fun v hv => hnot v ((List.takeWhile_sublist _).subset hv) (.inr hv)
    · rintro ⟨hnone, hfront⟩ v hv
      rw [Bool.eq_false_iff]
      intro hin
      rw [initAllUnit_initMap_iff hv, hfront, hnone v hv] at hin
      simp at hin
  rw [hpass, takeWhile_eq_nil_iff_head?]
  refine and_congr_right fun hnone => forall₂_congr fun v hv => ?_
  rw [ready, hnone v (List.mem_of_head? hv)]
  simp

theorem noneInited_deinit_iff (hall : AllInited reg s) :
    NoneInited reg (fwkDeinitAll reg s) ↔ ∀ v ∈ visits reg, v ∈ visitsBack reg := by
  refine forall₂_congr fun v hv => ?_
  rw [Bool.eq_false_iff, Ne, fwkDeinitAll_initMap_iff hv, and_iff_right (hall v hv), not_not]

/-- The units behind a call of `FwkInitAll` that succeeded are initialised; at the other places that none is can be told
from the calls. -/
def Inv (reg : Registry) (s : Main) : Prop :=
  match s.place with
  | .mainLoop | .publish | .deinitAll => AllInited reg s.fwk ∧ .mainInitialized ∈ s.published
  | _ => NoneInited reg s.fwk ↔ FailedEarly reg s.passes s.published

theorem Inv.start (reg : Registry) : Inv reg Main.start :=
  iff_of_true (fun _ _ => rfl) ⟨nofun, nofun⟩

theorem Inv.tryInit {s : Main} (h : NoneInited reg s.fwk ↔ FailedEarly reg s.passes s.published) (ok : UnitId → Bool) :
    Inv reg (s.tryInit reg ok) := by
  have hcall : fwkInitAll reg .failedReturn ok [] s.fwk = initAllUnit reg ok s.fwk := by
    rw [← initPasses_singleton]
    rfl
  rw [Main.tryInit, hcall]
  rcases heq : initAllUnit reg ok s.fwk with ⟨fwk, _ | _⟩
  · have hpass : NoneInited reg (initAllUnit reg ok s.fwk).1 ↔ NoneInited reg s.fwk ∧ FailsFirst reg ok :=
      noneInited_pass_iff ok
    rw [heq, h] at hpass
    refine hpass.trans ?_
    constructor
    · rintro ⟨⟨hpasses, hvisited⟩, hfirst⟩
      refine ⟨fun ok' hok' => ?_, hvisited⟩
      rcases List.mem_append.mp hok' with hold | hnew
      · exact hpasses ok' hold
      · exact List.mem_singleton.mp hnew ▸ hfirst
    · rintro ⟨hpasses, hvisited⟩
      exact ⟨⟨fun ok' hok' => hpasses ok' (List.mem_append_left _ hok'), hvisited⟩, hpasses ok (by simp)⟩
  · have hall : AllInited reg (initAllUnit reg ok s.fwk).1 := initAllUnit_allInited (by rw [heq])
    rw [heq] at hall
    exact ⟨hall, by simp⟩

theorem Inv.step {s : Main} (h : Inv reg s) (r : Request) : Inv reg (step reg s r) := by
  cases r with
  | stop locked => cases locked <;> exact h
  | reset => exact h
  | restore => exact h
  | task ok =>
    rw [FwkMain.step, iotcFwkMainTaskBody]
    unfold Inv at h
    cases hplace : s.place with
    | initAll =>
      rw [hplace] at h
      exact Inv.tryInit h ok
    | mainLoop =>
      rw [hplace] at h
      exact h
    | publish =>
      rw [hplace] at h
      exact ⟨h.1, List.mem_append_left _ h.2⟩
    | deinitAll =>
      rw [hplace] at h
      refine (noneInited_deinit_iff h.1).trans ?_
      exact ⟨fun hall => ⟨nofun, fun _ => hall⟩, fun hearly => hearly.visited h.2⟩
    | test failed =>
      rw [hplace] at h
      cases hflag : s.existsFlag <;> exact h
    | exited =>
      rw [hplace] at h
      unfold Inv
      rw [hplace]
      exact h

theorem tryInit_place_ne (reg : Registry) (ok : UnitId → Bool) (s : Main) : (s.tryInit reg ok).place ≠ .exited := by
  unfold Main.tryInit
  rcases fwkInitAll reg .failedReturn ok [] s.fwk with ⟨fwk, _ | _⟩ <;> exact nofun

theorem exitClean_iff {s : Main} (h : Inv reg s) (hclean : s.place = .exited → NoneInited reg s.fwk) (r : Request) :
    ExitClean reg s r ↔ StopFits reg s r := by
  have hfits : (∀ failed, s.place ≠ .test failed) → ∀ ok, StopFits reg s (.task ok) :=
    fun hne _ failed hplace => absurd hplace (hne failed)
  cases r with
  | stop locked => cases locked <;> exact iff_of_true hclean trivial
  | reset => exact iff_of_true hclean trivial
  | restore => exact iff_of_true hclean trivial
  | task ok =>
    simp only [ExitClean, step, iotcFwkMainTaskBody]
    unfold Inv at h
    cases hplace : s.place with
    | initAll =>
      exact iff_of_true (fun hexit => absurd hexit (tryInit_place_ne reg ok s)) (hfits (by simp [hplace]) ok)
    | mainLoop => exact iff_of_true nofun (hfits (by simp [hplace]) ok)
    | publish => exact iff_of_true nofun (hfits (by simp [hplace]) ok)
    | deinitAll => exact iff_of_true nofun (hfits (by simp [hplace]) ok)
    | exited => exact iff_of_true (fun _ => hclean hplace) (hfits (by simp [hplace]) ok)
    | test failed =>
      rw [hplace] at h
      cases hflag : s.existsFlag with
      | true => exact iff_of_true nofun fun _ _ hstop => absurd (hflag.symm.trans hstop) (by decide)
      | false => exact ⟨fun hnone _ _ _ => h.mp (hnone rfl), fun hearly _ => h.mpr (hearly failed hplace hflag)⟩

/-- `FwkInitAll` keeps what its return says exactly under `PolicyFits`, and in every run of the main task with any
requests no unit is left initialised at the exit exactly when the stop requests fit. -/
theorem startup_shutdown_iff (reg : Registry) :
    (∀ policy ok retries s,
      PolicyKept reg policy (fwkInitAll reg policy ok retries s) ↔ PolicyFits reg policy ok s) ∧
    ∀ rs, Along (step reg) (ExitClean reg) Main.start rs ↔ Along (step reg) (StopFits reg) Main.start rs := by
  have hinv : ∀ s r, StopFits reg s r → Inv reg s ∧ (s.place = .exited → NoneInited reg s.fwk) →
      Inv reg (step reg s r) ∧ ExitClean reg s r :=
    fun _ r hr h => ⟨h.1.step r, (exitClean_iff h.1 h.2 r).mpr hr⟩
  exact ⟨policyKept_iff reg, along_step_iff hinv (fun _ r h => exitClean_iff h.1 h.2 r) ⟨Inv.start reg, nofun⟩⟩

/-- A unit whose init succeeds is not initialised after `IOTC_OK`; and a stop request that comes while the task sleeps
after a failed init ends it with the unit before the one that failed still initialised. -/
theorem left_initialised :
    ¬ PolicyKept [[⟨.biz, true, true⟩]] .failedDeinitAll
      (fwkInitAll [[⟨.biz, true, true⟩]] .failedDeinitAll (fun _ => true) [] Fwk.init) ∧
    ¬ Along (step [[⟨.biz, true, true⟩, ⟨.biz, true, true⟩]]) (ExitClean [[⟨.biz, true, true⟩, ⟨.biz, true, true⟩]])
      Main.start [.task fun u => u.2 = 0, .stop true, .task fun _ => true] := by
  constructor
  · intro hkept
    have hinit := hkept.ok rfl
    revert hinit
    unfold AllInited
    decide
  · rintro ⟨-, -, hclean, -⟩
    have hnone := hclean rfl
    revert hnone
    unfold NoneInited
    decide

end IotConnect.FwkMain
