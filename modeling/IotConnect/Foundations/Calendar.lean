import Mathlib.Order.Monotone.Basic
import Mathlib.Tactic.Common

/-! # The proleptic Gregorian calendar

The days are counted from 1 January 1970 by going from each date to the next one. `Date.number` counts the days
from the start of year 0; a valid date is determined by its number. -/
namespace IotConnect.Calendar
set_option autoImplicit false

def IsLeap (y : ℕ) : Prop := y % 4 = 0 ∧ (y % 100 ≠ 0 ∨ y % 400 = 0)

instance (y : ℕ) : Decidable (IsLeap y) := inferInstanceAs (Decidable (_ ∧ _))

def yearLength (y : ℕ) : ℕ := if IsLeap y then 366 else 365

def monthLength (y : ℕ) : ℕ → ℕ
  | 2 => if IsLeap y then 29 else 28
  | 4 | 6 | 9 | 11 => 30
  | _ => 31

theorem monthLength_pos (y m : ℕ) : 1 ≤ monthLength y m := by
  unfold monthLength
  split
  · split_ifs <;> omega
  all_goals omega

structure Date where
  year : ℕ
  month : ℕ
  day : ℕ
  deriving DecidableEq

structure Date.Valid (d : Date) : Prop where
  month_pos : 1 ≤ d.month
  month_le : d.month ≤ 12
  day_pos : 1 ≤ d.day
  day_le : d.day ≤ monthLength d.year d.month

def Date.next (d : Date) : Date :=
  if d.day < monthLength d.year d.month then { d with day := d.day + 1 }
  else if d.month < 12 then ⟨d.year, d.month + 1, 1⟩
  else ⟨d.year + 1, 1, 1⟩

/-- The date `n` days after 1 January 1970. -/
def dateAfter : ℕ → Date
  | 0 => ⟨1970, 1, 1⟩
  | n + 1 => (dateAfter n).next

/-- 1 January 1970 was a Thursday; the days of the week are counted from Monday. -/
def weekdayAfter (n : ℕ) : ℕ := (n + 3) % 7

/-! ## Counting the days -/

def daysBeforeYear : ℕ → ℕ
  | 0 => 0
  | y + 1 => daysBeforeYear y + yearLength y

/-- The days of the months `1` to `m - 1`. -/
def daysBeforeMonth (y : ℕ) : ℕ → ℕ
  | 0 => 0
  | 1 => 0
  | m + 2 => daysBeforeMonth y (m + 1) + monthLength y (m + 1)

def Date.number (d : Date) : ℕ := daysBeforeYear d.year + daysBeforeMonth d.year d.month + d.day

theorem daysBeforeYear_eq (y : ℕ) :
    daysBeforeYear y + (y + 99) / 100 = 365 * y + (y + 3) / 4 + (y + 399) / 400 := by
  induction y with
  | zero => rfl
  | succ y ih =>
    -- each of the three counts goes up by one behind a multiple
    have h4 : (y + 1 + 3) / 4 = (y + 3) / 4 + if y % 4 = 0 then 1 else 0 := by split_ifs <;> omega
    have h100 : (y + 1 + 99) / 100 = (y + 99) / 100 + if y % 100 = 0 then 1 else 0 := by split_ifs <;> omega
    have h400 : (y + 1 + 399) / 400 = (y + 399) / 400 + if y % 400 = 0 then 1 else 0 := by split_ifs <;> omega
    have hleap : yearLength y + (if y % 100 = 0 then 1 else 0) =
        365 + (if y % 4 = 0 then 1 else 0) + if y % 400 = 0 then 1 else 0 := by
      unfold yearLength
      by_cases h : IsLeap y
      · rw [if_pos h]
        unfold IsLeap at h
        split_ifs <;> omega
      · rw [if_neg h]
        unfold IsLeap at h
        split_ifs <;> omega
    rw [daysBeforeYear, h4, h100, h400]
    omega

/-- The days before a year by the numbers of the year before it. -/
theorem daysBeforeYear_succ_eq (y : ℕ) : daysBeforeYear (y + 1) + y / 100 = 365 * y + y / 4 + y / 400 + 366 := by
  have := daysBeforeYear_eq (y + 1)
  omega

/-- From March on the months before are 30.601 days long each. -/
theorem daysBeforeMonth_march {y m : ℕ} (h : 3 ≤ m) (h' : m ≤ 12) :
    daysBeforeMonth y m + 428 = yearLength y + 30 * (m + 1) + (m + 1) * 601 / 1000 := by
  rw [yearLength]
  have hcases : m = 3 ∨ m = 4 ∨ m = 5 ∨ m = 6 ∨ m = 7 ∨ m = 8 ∨ m = 9 ∨ m = 10 ∨ m = 11 ∨ m = 12 := by omega
  rcases hcases with rfl | rfl | rfl | rfl | rfl | rfl | rfl | rfl | rfl | rfl
  all_goals
    simp only [daysBeforeMonth, monthLength]
    split_ifs <;> rfl

theorem daysBeforeMonth_succ {y m : ℕ} (h : 1 ≤ m) :
    daysBeforeMonth y (m + 1) = daysBeforeMonth y m + monthLength y m := by
  obtain ⟨k, rfl⟩ := Nat.exists_eq_add_of_le' h
  rfl

theorem daysBeforeMonth_year (y : ℕ) : daysBeforeMonth y 13 = yearLength y := by
  simp only [daysBeforeMonth, monthLength, yearLength]
  split_ifs <;> rfl

theorem daysBeforeYear_mono : Monotone daysBeforeYear := by
  apply monotone_nat_of_le_succ
  intro y
  exact Nat.le_add_right _ _

theorem daysBeforeMonth_mono (y : ℕ) : Monotone (daysBeforeMonth y) := by
  apply monotone_nat_of_le_succ
  intro m
  cases m with
  | zero => exact Nat.le_refl _
  | succ m => exact Nat.le_add_right _ _

/-- A number lies in one step of a monotone function only. -/
theorem step_unique {f : ℕ → ℕ} (hf : Monotone f) {i j n : ℕ} (hi : f i < n) (hi' : n ≤ f (i + 1)) (hj : f j < n)
    (hj' : n ≤ f (j + 1)) : i = j := by
  rcases Nat.lt_trichotomy i j with h | h | h
  · have : f (i + 1) ≤ f j := hf h
    omega
  · exact h
  · have : f (j + 1) ≤ f i := hf h
    omega

namespace Date.Valid
variable {d d' : Date}

theorem day_le_month (h : d.Valid) : daysBeforeMonth d.year d.month + d.day ≤ daysBeforeMonth d.year (d.month + 1) := by
  have := h.day_le
  rw [daysBeforeMonth_succ h.month_pos]
  omega

theorem number_le_year (h : d.Valid) : d.number ≤ daysBeforeYear (d.year + 1) := by
  have hmonth := h.day_le_month
  have hyear : daysBeforeMonth d.year (d.month + 1) ≤ daysBeforeMonth d.year 13 :=
    daysBeforeMonth_mono d.year (Nat.succ_le_succ h.month_le)
  rw [daysBeforeMonth_year] at hyear
  rw [daysBeforeYear, number]
  omega

theorem year_lt_number (h : d.Valid) : daysBeforeYear d.year < d.number := by
  have := h.day_pos
  rw [number]
  omega

theorem eq_of_number (h : d.Valid) (h' : d'.Valid) (heq : d.number = d'.number) : d = d' := by
  have hyear : d.year = d'.year :=
    step_unique daysBeforeYear_mono h.year_lt_number h.number_le_year (heq ▸ h'.year_lt_number)
      (heq ▸ h'.number_le_year)
  obtain ⟨y, m, k⟩ := d
  obtain ⟨y', m', k'⟩ := d'
  obtain rfl : y = y' := hyear
  have hk := h.day_pos
  have hk' := h'.day_pos
  have hsum : daysBeforeMonth y m + k = daysBeforeMonth y m' + k' := by
    simp only [number] at heq
    omega
  have hle := h.day_le_month
  have hle' := h'.day_le_month
  dsimp only at hk hk' hle hle'
  obtain rfl : m = m' :=
    step_unique (n := daysBeforeMonth y m + k) (daysBeforeMonth_mono y) (by omega) hle (by omega) (by omega)
  obtain rfl : k = k' := by omega
  rfl

/-! ## The next date -/

theorem next (h : d.Valid) : d.next.Valid := by
  obtain ⟨hm, hm', hd, hd'⟩ := h
  unfold Date.next
  split_ifs with hday hmonth
  · exact ⟨hm, hm', by dsimp only; omega, hday⟩
  · exact ⟨by dsimp only; omega, by dsimp only; omega, Nat.le_refl 1, monthLength_pos _ _⟩
  · exact ⟨Nat.le_refl 1, by dsimp only; omega, Nat.le_refl 1, monthLength_pos _ _⟩

theorem number_next (h : d.Valid) : d.next.number = d.number + 1 := by
  have hle := h.day_le
  unfold Date.next
  split_ifs with hday hmonth
  · simp only [number]
    omega
  · simp only [number, daysBeforeMonth_succ h.month_pos]
    omega
  · have hlast : d.month = 12 := by
      have := h.month_le
      omega
    have hyear := daysBeforeMonth_year d.year
    rw [daysBeforeMonth_succ (by decide), ← hlast] at hyear
    simp only [number, daysBeforeYear, daysBeforeMonth]
    omega

end Date.Valid

theorem dateAfter_valid (n : ℕ) : (dateAfter n).Valid := by
  induction n with
  | zero => exact ⟨by decide, by decide, by decide, by decide⟩
  | succ n ih => exact ih.next

theorem dateAfter_number (n : ℕ) : (dateAfter n).number = n + 719529 := by
  induction n with
  | zero =>
    have := daysBeforeYear_eq 1970
    simp only [dateAfter, Date.number, daysBeforeMonth]
    omega
  | succ n ih =>
    have hnext := (dateAfter_valid n).number_next
    rw [dateAfter]
    omega

theorem eq_dateAfter {d : Date} {n : ℕ} (h : d.Valid) (hn : d.number = n + 719529) : d = dateAfter n :=
  h.eq_of_number (dateAfter_valid n) (hn.trans (dateAfter_number n).symm)

end IotConnect.Calendar
