import Mathlib.Tactic.Common

/-! # Runs of a deterministic system

`run step s es` feeds the events `es` to a system one after another. `Along step P s es` says that
every event of the run meets `P` in the state it arrives in. An invariant kept by every step that
meets `P` holds after every run that does (`run_invariant`), and a relation kept by the steps of
two systems fed the same events holds between their runs (`run_simulation`). -/
namespace IotConnect.Trace
set_option autoImplicit false

variable {σ τ ε : Type}

def run (step : σ → ε → σ) (s : σ) : List ε → σ
  | [] => s
  | e :: es => run step (step s e) es

def Along (step : σ → ε → σ) (P : σ → ε → Prop) (s : σ) : List ε → Prop
  | [] => True
  | e :: es => P s e ∧ Along step P (step s e) es

instance decidableAlong (step : σ → ε → σ) (P : σ → ε → Prop) [∀ s e, Decidable (P s e)] :
    ∀ s es, Decidable (Along step P s es)
  | _, [] => .isTrue trivial
  | s, e :: es =>
    have := decidableAlong step P (step s e) es
    inferInstanceAs (Decidable (_ ∧ _))

@[simp] theorem run_nil (step : σ → ε → σ) (s : σ) : run step s [] = s := rfl

@[simp] theorem run_cons (step : σ → ε → σ) (s : σ) (e : ε) (es : List ε) :
    run step s (e :: es) = run step (step s e) es := rfl

theorem run_append (step : σ → ε → σ) (s : σ) (es fs : List ε) :
    run step s (es ++ fs) = run step (run step s es) fs := by
  induction es generalizing s with
  | nil => rfl
  | cons e es ih => exact ih (step s e)

theorem along_append (step : σ → ε → σ) (P : σ → ε → Prop) (s : σ) (es fs : List ε) :
    Along step P s (es ++ fs) ↔ Along step P s es ∧ Along step P (run step s es) fs := by
  induction es generalizing s with
  | nil => simp [Along]
  | cons e es ih => simp only [List.cons_append, Along, run_cons, ih, and_assoc]

theorem Along.mono {step : σ → ε → σ} {P Q : σ → ε → Prop} (hPQ : ∀ s e, P s e → Q s e) :
    ∀ {s : σ} {es : List ε}, Along step P s es → Along step Q s es
  | _, [], _ => trivial
  | _, _ :: _, h => ⟨hPQ _ _ h.1, Along.mono hPQ h.2⟩

variable {step : σ → ε → σ} {P : σ → ε → Prop} {es : List ε}

theorem along_of_forall (h : ∀ e ∈ es, ∀ s, P s e) (s : σ) : Along step P s es := by
  induction es generalizing s with
  | nil => trivial
  | cons e es ih => exact ⟨h e List.mem_cons_self s, ih (fun f hf => h f (List.mem_cons_of_mem e hf)) _⟩

theorem along_of_splits (es : List ε) (s : σ)
    (h : ∀ before e after, es = before ++ e :: after → P (run step s before) e) : Along step P s es := by
  induction es generalizing s with
  | nil => trivial
  | cons e es ih =>
    refine ⟨h [] e es rfl, ih (step s e) fun before f after hsplit => ?_⟩
    exact h (e :: before) f after (by rw [hsplit]; rfl)

variable {Inv : σ → Prop} {s : σ}

theorem run_invariant (hstep : ∀ s e, P s e → Inv s → Inv (step s e))
    (halong : Along step P s es) (hs : Inv s) : Inv (run step s es) := by
  induction es generalizing s with
  | nil => exact hs
  | cons e es ih => exact ih halong.2 (hstep s e halong.1 hs)

theorem along_invariant {Q : σ → ε → Prop}
    (hstep : ∀ s e, P s e → Inv s → Inv (step s e)) (hQ : ∀ s e, P s e → Inv s → Q s e)
    (halong : Along step P s es) (hs : Inv s) : Along step Q s es := by
  induction es generalizing s with
  | nil => trivial
  | cons e es ih => exact ⟨hQ s e halong.1 hs, ih halong.2 (hstep s e halong.1 hs)⟩

theorem along_step_iff {Q : σ → ε → Prop}
    (hinv : ∀ s e, P s e → Inv s → Inv (step s e)) (hiff : ∀ s e, Inv s → (Q s e ↔ P s e))
    (hs : Inv s) (es : List ε) : Along step Q s es ↔ Along step P s es := by
  induction es generalizing s with
  | nil => exact Iff.rfl
  | cons e es ih =>
    rw [Along, Along, hiff s e hs]
    apply and_congr_right
    intro he
    exact ih (hinv s e he hs)

theorem along_kept_iff {Good : σ → Prop}
    (hinv : ∀ s e, Inv s → Inv (step s e)) (hkept : ∀ s e, Inv s → Good s → (Good (step s e) ↔ P s e))
    (hs : Inv s) (hgood : Good s) (es : List ε) :
    Along step (fun s e => Good (step s e)) s es ↔ Along step P s es := by
  have hboth : ∀ s e, P s e → Inv s ∧ Good s → Inv (step s e) ∧ Good (step s e) := by
    rintro s e he ⟨hs, hgood⟩
    exact ⟨hinv s e hs, (hkept s e hs hgood).mpr he⟩
  exact along_step_iff hboth (fun s e h => hkept s e h.1 h.2) ⟨hs, hgood⟩ es

theorem run_simulation {step' : τ → ε → τ} {R : σ → τ → Prop}
    (hstep : ∀ s t e, P s e → R s t → R (step s e) (step' t e)) {t : τ}
    (halong : Along step P s es) (hs : R s t) : R (run step s es) (run step' t es) := by
  induction es generalizing s t with
  | nil => exact hs
  | cons e es ih => exact ih halong.2 (hstep s t e halong.1 hs)

end IotConnect.Trace
