import Mathlib.Tactic.Common

/-! # A lock and the places of its holders

Every party of a system is at some place of its code, and the places between the lock and the unlock are those where
it holds the lock. `Held hold lock` says that the lock's holder is the one party at such a place. The rules say how
this is kept when a party moves: it takes the free lock, gives back its own, or leaves the lock alone. -/
namespace IotConnect.Mutex
set_option autoImplicit false

variable {ι : Type} {hold hold' : ι → Bool} {lock : Option ι}

def Held (hold : ι → Bool) (lock : Option ι) : Prop := ∀ i, hold i = true ↔ lock = some i

theorem Held.unique (h : Held hold lock) {i j : ι} (hi : hold i = true) (hj : hold j = true) : i = j :=
  Option.some.inj (((h i).mp hi).symm.trans ((h j).mp hj))

theorem Held.other (h : Held hold lock) {i j : ι} (hi : hold i = true) (hne : j ≠ i) : hold j = false :=
  Bool.eq_false_iff.mpr fun hj => hne (h.unique hj hi)

theorem Held.nobody (h : Held hold none) (i : ι) : hold i = false :=
  Bool.eq_false_iff.mpr fun hi => nomatch (h i).mp hi

/-- What becomes of the lock when `i` moves from a place to another: `i` held it `before` and holds it `after`. -/
inductive Relock (i : ι) (before after : Bool) : Option ι → Option ι → Prop
  | keep (lock : Option ι) : after = before → Relock i before after lock lock
  | take : after = true → Relock i before after none (some i)
  | drop (lock : Option ι) : before = true → after = false → Relock i before after lock none

theorem Held.relock {i : ι} {lock' : Option ι} (h : Held hold lock) (hlock : Relock i (hold i) (hold' i) lock lock')
    (heq : ∀ j, j ≠ i → hold' j = hold j) : Held hold' lock' := by
  intro j
  by_cases hj : j = i
  · subst hj
    cases hlock with
    | keep _ hkeep => rw [hkeep]; exact h j
    | take hafter => exact ⟨fun _ => rfl, fun _ => hafter⟩
    | drop _ hbefore hafter => rw [hafter]; exact ⟨nofun, nofun⟩
  · rw [heq j hj]
    cases hlock with
    | keep _ _ => exact h j
    | take _ =>
      rw [h.nobody j]
      exact ⟨nofun, fun hij => absurd (Option.some.inj hij).symm hj⟩
    | drop _ hbefore _ =>
      rw [h.other hbefore hj]
      exact ⟨nofun, nofun⟩

end IotConnect.Mutex
