import Mathlib.Tactic.Common

/-! # Computations that keep a log

A fallible computation together with the list of the accesses it makes, kept also when it fails. A
property of every access is proved piece by piece along the sequence: as an equivalence (`all_bind`), or
with a postcondition on what each part returns (`Meets`, `Meets.bind`). -/
namespace IotConnect.Foundations
set_option autoImplicit false

structure Logged (α ε β : Type) where
  log : List α
  result : Except ε β

namespace Logged
variable {α ε β γ : Type}

def fail (e : ε) : Logged α ε β := ⟨[], .error e⟩

def note (as : List α) : Logged α ε Unit := ⟨as, .ok ()⟩

def andThen (c : Logged α ε β) (f : β → Logged α ε γ) : Logged α ε γ :=
  match c.result with
  | .error e => ⟨c.log, .error e⟩
  | .ok b => ⟨c.log ++ (f b).log, (f b).result⟩

instance : Monad (Logged α ε) where
  pure b := ⟨[], .ok b⟩
  bind := andThen

def All (P : α → Prop) (c : Logged α ε β) : Prop := ∀ a ∈ c.log, P a

instance (P : α → Prop) [DecidablePred P] (c : Logged α ε β) : Decidable (c.All P) :=
  inferInstanceAs (Decidable (∀ a ∈ c.log, P a))

variable {P : α → Prop}

@[simp] theorem all_pure (b : β) : (pure b : Logged α ε β).All P := fun _ h => by cases h

@[simp] theorem all_fail (e : ε) : (fail e : Logged α ε β).All P := fun _ h => by cases h

@[simp] theorem all_note (as : List α) : (note as : Logged α ε Unit).All P ↔ ∀ a ∈ as, P a := Iff.rfl

/-- Every access of a sequence is in order when those of its first part are, and those of the second
wherever the first returns. -/
theorem all_bind (c : Logged α ε β) (f : β → Logged α ε γ) :
    (c >>= f).All P ↔ c.All P ∧ ∀ b, c.result = .ok b → (f b).All P := by
  show (andThen c f).All P ↔ _
  unfold andThen All
  cases hc : c.result with
  | error e => simp
  | ok b => simp [or_imp, forall_and]

theorem result_bind (c : Logged α ε β) (f : β → Logged α ε γ) :
    (c >>= f).result = c.result.bind fun b => (f b).result := by
  show (andThen c f).result = _
  unfold andThen
  cases c.result <;> rfl

theorem result_bind_eq_ok {c : Logged α ε β} {f : β → Logged α ε γ} {r : γ} (h : (c >>= f).result = .ok r) :
    ∃ b, c.result = .ok b ∧ (f b).result = .ok r := by
  rw [result_bind] at h
  cases hb : c.result with
  | error e =>
    rw [hb] at h
    cases h
  | ok b =>
    rw [hb] at h
    exact ⟨b, rfl, h⟩

@[simp] theorem result_pure (b : β) : (pure b : Logged α ε β).result = .ok b := rfl

@[simp] theorem result_note_bind (as : List α) (f : Unit → Logged α ε β) : (note as >>= f).result = (f ()).result := rfl

@[simp] theorem all_note_bind (as : List α) (f : Unit → Logged α ε β) :
    (note as >>= f).All P ↔ (∀ a ∈ as, P a) ∧ (f ()).All P := by
  rw [all_bind]
  exact and_congr Iff.rfl ⟨fun h => h () rfl, fun h _ _ => h⟩

/-- Every access meets `P`, and what is returned meets `Q`. -/
def Meets (P : α → Prop) (Q : β → Prop) (c : Logged α ε β) : Prop := c.All P ∧ ∀ b, c.result = .ok b → Q b

theorem Meets.bind {Q : β → Prop} {R : γ → Prop} {c : Logged α ε β} {f : β → Logged α ε γ} (hc : c.Meets P Q)
    (hf : ∀ b, Q b → (f b).Meets P R) : (c >>= f).Meets P R := by
  refine ⟨(all_bind c f).mpr ⟨hc.1, fun b hb => (hf b (hc.2 b hb)).1⟩, fun r hr => ?_⟩
  obtain ⟨b, hb, hr⟩ := result_bind_eq_ok hr
  exact (hf b (hc.2 b hb)).2 r hr

theorem Meets.fail {Q : β → Prop} (e : ε) : (fail e : Logged α ε β).Meets P Q := ⟨all_fail e, fun _ h => by cases h⟩

theorem Meets.pure {Q : β → Prop} {b : β} (h : Q b) : (Pure.pure b : Logged α ε β).Meets P Q :=
  ⟨all_pure b, fun r hr => by cases hr; exact h⟩

theorem Meets.note {Q : β → Prop} {as : List α} {f : Unit → Logged α ε β} (has : ∀ a ∈ as, P a)
    (hf : (f ()).Meets P Q) : (Logged.note as >>= f).Meets P Q :=
  ⟨(all_note_bind as f).mpr ⟨has, hf.1⟩, hf.2⟩

end Logged

end IotConnect.Foundations
