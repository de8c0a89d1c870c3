import Mathlib.Tactic.Common

/-! # Data delivered in chunks

A source hands out a byte stream in chunks: its `i`-th call gives at most `chunk i` bytes, and nothing at
all when `chunk i` is `0`. A source is fair when it never falls silent for good. `Fair.exhaust` is the
induction over such a source: what holds when nothing is left to deliver, and holds before a call whenever
it holds after it, holds from the start, whatever the chunks are. -/
namespace IotConnect.Chunks
set_option autoImplicit false

variable {α : Type}

def Fair (chunk : ℕ → ℕ) : Prop := ∀ i, ∃ j, i ≤ j ∧ 0 < chunk j

theorem Fair.exhaust {chunk : ℕ → ℕ} (hfair : Fair chunk) {P : ℕ → List α → List α → Prop}
    (hdone : ∀ i done, P i done [])
    (hstep : ∀ i done todo, todo ≠ [] → P (i + 1) (done ++ todo.take (chunk i)) (todo.drop (chunk i)) →
      P i done todo) : ∀ todo i done, P i done todo := by
  intro todo
  induction hn : todo.length using Nat.strongRecOn generalizing todo with
  | ind n ih =>
    intro i done
    obtain ⟨j, hij, hj⟩ := hfair i
    obtain ⟨d, rfl⟩ : ∃ d, j = i + d := ⟨j - i, by omega⟩
    by_cases hnil : todo = []
    · rw [hnil]
      exact hdone i done
    have hpos : 0 < todo.length := List.length_pos_iff.mpr hnil
    -- the calls up to the `j`-th are idle or shorten what is left
    clear hij
    induction d generalizing i with
    | zero =>
      apply hstep i done todo hnil
      exact ih _ (by rw [List.length_drop]; rw [Nat.add_zero] at hj; omega) _ rfl (i + 1) _
    | succ d ihd =>
      apply hstep i done todo hnil
      by_cases hzero : chunk i = 0
      · rw [hzero, List.take_zero, List.append_nil, List.drop_zero]
        apply ihd (i + 1)
        rwa [Nat.add_assoc, Nat.add_comm 1 d]
      · exact ih _ (by rw [List.length_drop]; omega) _ rfl (i + 1) _

end IotConnect.Chunks
