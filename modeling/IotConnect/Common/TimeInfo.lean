import IotConnect.Common.Utils
import IotConnect.Foundations.Calendar

/-! # From milliseconds to a date (`ConvertTime` of `utils_time.c`)

The date comes from closed formulas. They count years from March on, so that the leap day is the last of its year:
`c - 4716` is that year, `d` the day in it, starting with 123, and `e` the month, from 4 for March to 15 for
February. -/
namespace IotConnect
open Calendar
set_option autoImplicit false

structure TimeInfo where
  date : Date
  week : ℕ
  hour : ℕ
  min : ℕ
  sec : ℕ
  deriving DecidableEq

inductive TimeErr
  | errParamInvalid
  | errTimeout
  | timeOverflow
  | timeNotSync
  | timeGetData
  | timeGetWeekday
  deriving DecidableEq

def getWeekDayFromDate (date : Date) : Except TimeErr ℕ :=
  -- January and February are months 13 and 14 of the year before
  let early := date.month = 1 ∨ date.month = 2
  let month := if early then date.month + 12 else date.month
  let year := if early then (date.year + 65535) % 65536 else date.year
  if 14 < month then .error .timeGetWeekday
  else
    .ok ((date.day + 2 * month + 3 * (month + 1) / 5 + year + year / 4 - year / 100 + year / 400) % 7)

def getDate (days : ℕ) : Except TimeErr Date :=
  let a := ((4 * days + 102032) / 146097 + 15) % 2 ^ 32
  let b := (days + 2442113 + a - a / 4) % 2 ^ 32
  if 4294967295 / 20 < b then .error .timeGetData
  else
    let c := u32Sub (20 * b) 2442 / 7305
    let d := u32Sub (u32Sub b (365 * c % 2 ^ 32)) (c / 4)
    if 4294967295 / 1000 < d then .error .timeGetData
    else
      let e := d * 1000 / 30601
      let f := u32Sub (u32Sub d (e * 30)) (e * 601 / 1000)
      let year := if e ≤ 13 then u32Sub c 4716 else u32Sub c 4715
      let month := if e ≤ 13 then u32Sub e 1 else u32Sub e 13
      .ok ⟨year % 2 ^ 16, month % 2 ^ 8, f % 2 ^ 8⟩

def convertTime (timeMs : ℕ) : Except TimeErr TimeInfo :=
  if timeMs = 0 then .error .errParamInvalid
  else
    let timeSec := timeMs / 1000
    let minutes := timeSec / 60 % 2 ^ 32
    let hours := minutes / 60
    match getDate (hours / 24) with
    | .error _ => .error .timeGetData
    | .ok date =>
      match getWeekDayFromDate date with
      | .error _ => .error .timeGetWeekday
      | .ok weekDay => .ok ⟨date, 2 ^ weekDay % 2 ^ 8, hours % 24, minutes % 60, timeSec % 60⟩

/-! ## The formulas -/

/-- Day `d` of the year from March `Y` on is `n` days after the epoch. -/
structure MarchDay (n Y d : ℕ) : Prop where
  count : n + 719591 + Y / 100 = 365 * Y + Y / 4 + Y / 400 + d
  first : 123 ≤ d
  last : d ≤ 488
  leap : d = 488 → IsLeap (Y + 1)

theorem marchDay {n a b Y : ℕ} (ha : a = (4 * n + 102032) / 146097 + 15) (hb : b = n + 2442113 + a - a / 4)
    (hY : Y + 4716 = (20 * b - 2442) / 7305) : MarchDay n Y (b - 365 * (Y + 4716) - (Y + 4716) / 4) := by
  have hquarter : (Y + 4716) / 4 = Y / 4 + 1179 := by omega
  have hday : 365 * (Y + 4716) + Y / 4 + 1302 ≤ b ∧ b ≤ 365 * (Y + 4716) + Y / 4 + 1667 := by omega
  -- the 400-year cycle: `a` counts the centuries
  have hcentury : Y / 100 = a + 4 := by omega
  have hcycle : Y / 400 = a / 4 + 1 := by omega
  refine ⟨by omega, by omega, by omega, ?_⟩
  intro hlast
  unfold IsLeap
  omega

/-- The month and the day of a day of the year from March on. -/
structure MonthOf (d e f : ℕ) : Prop where
  march_le : 4 ≤ e
  le_february : e ≤ 15
  day_pos : 1 ≤ f
  sum : d = 30 * e + e * 601 / 1000 + f
  bound : 1000 * d < 30601 * (e + 1)

theorem monthOf {d : ℕ} (h : 123 ≤ d) (h' : d ≤ 488) :
    MonthOf d (d * 1000 / 30601) (d - d * 1000 / 30601 * 30 - d * 1000 / 30601 * 601 / 1000) :=
  ⟨by omega, by omega, by omega, by omega, by omega⟩

variable {n Y d e f : ℕ}

theorem march_to_december (h : MarchDay n Y d) (hm : MonthOf d e f) (he : e ≤ 13) :
    (⟨Y, e - 1, f⟩ : Date) = dateAfter n := by
  have hfrom := hm.march_le
  have hsum := hm.sum
  have hbound := hm.bound
  apply eq_dateAfter
  · refine ⟨by dsimp only; omega, by dsimp only; omega, hm.day_pos, ?_⟩
    have hcases : e = 4 ∨ e = 5 ∨ e = 6 ∨ e = 7 ∨ e = 8 ∨ e = 9 ∨ e = 10 ∨ e = 11 ∨ e = 12 ∨ e = 13 := by omega
    rcases hcases with rfl | rfl | rfl | rfl | rfl | rfl | rfl | rfl | rfl | rfl
    all_goals
      simp only [monthLength, Nat.reduceSub]
      omega
  · have hcount := h.count
    have hyear := daysBeforeYear_succ_eq Y
    have hmonth : daysBeforeMonth Y (e - 1) + 428 = yearLength Y + 30 * (e - 1 + 1) + (e - 1 + 1) * 601 / 1000 :=
      daysBeforeMonth_march (by omega) (by omega)
    rw [Nat.sub_add_cancel (by omega)] at hmonth
    rw [daysBeforeYear] at hyear
    rw [Date.number]
    dsimp only
    omega

theorem january_february (h : MarchDay n Y d) (hm : MonthOf d e f) (he : ¬ e ≤ 13) :
    (⟨Y + 1, e - 13, f⟩ : Date) = dateAfter n := by
  have hcount := h.count
  have hlast := h.last
  have hpos := hm.day_pos
  have hsum := hm.sum
  have hbound := hm.bound
  have hyear := daysBeforeYear_succ_eq Y
  have hcases : e = 14 ∨ e = 15 := by
    have := hm.le_february
    omega
  apply eq_dateAfter
  · rcases hcases with rfl | rfl
    · refine ⟨by dsimp only; omega, by dsimp only; omega, hpos, ?_⟩
      simp only [monthLength, Nat.reduceSub]
      omega
    · refine ⟨by dsimp only; omega, by dsimp only; omega, hpos, ?_⟩
      simp only [monthLength, Nat.reduceSub]
      split_ifs with hleap
      · omega
      · have hne : d ≠ 488 := fun heq => hleap (h.leap heq)
        omega
  · rw [Date.number]
    rcases hcases with rfl | rfl
    all_goals
      simp only [daysBeforeMonth, monthLength, Nat.reduceSub]
      omega

/-- The formula for the day of the week, where the months are numbered from March on. -/
theorem weekday_formula (h : MarchDay n Y d) (hm : MonthOf d e f) :
    (f + 2 * (e - 1) + 3 * (e - 1 + 1) / 5 + Y + Y / 4 - Y / 100 + Y / 400) % 7 = weekdayAfter n := by
  have hcount := h.count
  have hsum := hm.sum
  have hfrom := hm.march_le
  have hto := hm.le_february
  -- in these months both formulas add the same days to the thirty of each month
  have hextra : 3 * (e - 1 + 1) / 5 = e * 601 / 1000 := by omega
  have hweeks : f + 2 * (e - 1) + e * 601 / 1000 + 28 * e + 2 = d := by omega
  unfold weekdayAfter
  rw [hextra]
  omega

/-! ## The functions -/

/-- The last day that an `uint32_t` number of minutes reaches. -/
def lastDay : ℕ := 2982616

theorem getWeekDayFromDate_eq (h : MarchDay n Y d) (hm : MonthOf d e f) (hY : Y < 65535) :
    getWeekDayFromDate (dateAfter n) = .ok (weekdayAfter n) := by
  have hfrom := hm.march_le
  have hto := hm.le_february
  rw [← weekday_formula h hm]
  by_cases he : e ≤ 13
  · rw [← march_to_december h hm he]
    have hearly : ¬ (e - 1 = 1 ∨ e - 1 = 2) := by omega
    simp only [getWeekDayFromDate, hearly, if_false]
    rw [if_neg (by omega)]
  · rw [← january_february h hm he]
    have hearly : e - 13 = 1 ∨ e - 13 = 2 := by omega
    have hmonth : e - 13 + 12 = e - 1 := by omega
    have hyear : (Y + 1 + 65535) % 65536 = Y := by omega
    simp only [getWeekDayFromDate, hearly, if_true, hmonth, hyear]
    rw [if_neg (by omega)]

theorem u32Sub_u32Sub {a b c : ℕ} (h : b + c ≤ a) : u32Sub (u32Sub a b) c = a - b - c := by
  have hb : b ≤ a := by omega
  have hc : c ≤ a - b := by omega
  rw [u32Sub_of_le hb, u32Sub_of_le hc]

theorem getDate_eq (h : n ≤ lastDay) :
    getDate n = .ok (dateAfter n) ∧ getWeekDayFromDate (dateAfter n) = .ok (weekdayAfter n) := by
  unfold lastDay at h
  obtain ⟨a, ha⟩ : ∃ a, a = (4 * n + 102032) / 146097 + 15 := ⟨_, rfl⟩
  obtain ⟨b, hb⟩ : ∃ b, b = n + 2442113 + a - a / 4 := ⟨_, rfl⟩
  obtain ⟨Y, hY⟩ : ∃ Y, Y + 4716 = (20 * b - 2442) / 7305 := ⟨(20 * b - 2442) / 7305 - 4716, by omega⟩
  obtain ⟨d, hd⟩ : ∃ d, d = b - 365 * (Y + 4716) - (Y + 4716) / 4 := ⟨_, rfl⟩
  have hmarch : MarchDay n Y d := hd ▸ marchDay ha hb hY
  obtain ⟨e, he⟩ : ∃ e, e = d * 1000 / 30601 := ⟨_, rfl⟩
  obtain ⟨f, hf⟩ : ∃ f, f = d - e * 30 - e * 601 / 1000 := ⟨_, rfl⟩
  have hmonth : MonthOf d e f := by
    rw [hf, he]
    exact monthOf hmarch.first hmarch.last
  have hfirst := hmarch.first
  have hlast := hmarch.last
  have hfrom := hmonth.march_le
  have hto := hmonth.le_february
  have hsum := hmonth.sum
  have hyear : Y < 10200 := by omega
  refine ⟨?_, getWeekDayFromDate_eq hmarch hmonth (by omega)⟩
  -- none of the 32-bit operations wraps
  have hamod : ((4 * n + 102032) / 146097 + 15) % 2 ^ 32 = a := by omega
  have hbmod : (n + 2442113 + a - a / 4) % 2 ^ 32 = b := by omega
  have hc : u32Sub (20 * b) 2442 / 7305 = Y + 4716 := by rw [u32Sub_of_le (by omega), hY]
  have hcmod : 365 * (Y + 4716) % 2 ^ 32 = 365 * (Y + 4716) := by omega
  have hdsub : u32Sub (u32Sub b (365 * (Y + 4716))) ((Y + 4716) / 4) = d := by
    rw [u32Sub_u32Sub (by omega), hd]
  have hfsub : u32Sub (u32Sub d (e * 30)) (e * 601 / 1000) = f := by
    rw [u32Sub_u32Sub (by omega), hf]
  have hfmod : f % 2 ^ 8 = f := by omega
  unfold getDate
  simp only [hamod, hbmod, hc, hcmod, hdsub, ← he, hfsub, hfmod]
  rw [if_neg (by omega), if_neg (by omega)]
  by_cases hlate : e ≤ 13
  · have hyearmod : u32Sub (Y + 4716) 4716 % 2 ^ 16 = Y := by
      rw [u32Sub_of_le (by omega)]
      omega
    have hmonthmod : u32Sub e 1 % 2 ^ 8 = e - 1 := by
      rw [u32Sub_of_le (by omega)]
      omega
    rw [if_pos hlate, if_pos hlate, hyearmod, hmonthmod, march_to_december hmarch hmonth hlate]
  · have hyearmod : u32Sub (Y + 4716) 4715 % 2 ^ 16 = Y + 1 := by
      rw [u32Sub_of_le (by omega)]
      omega
    have hmonthmod : u32Sub e 13 % 2 ^ 8 = e - 13 := by
      rw [u32Sub_of_le (by omega)]
      omega
    rw [if_neg hlate, if_neg hlate, hyearmod, hmonthmod, january_february hmarch hmonth hlate]

/-- The date and the time `minutes` minutes and `sec` seconds after the epoch. -/
def infoAfter (minutes sec : ℕ) : TimeInfo :=
  ⟨dateAfter (minutes / 1440), 2 ^ weekdayAfter (minutes / 1440), minutes / 60 % 24, minutes % 60, sec⟩

/-- What `ConvertTime` gives for every time: the minutes are cut to 32 bits. -/
theorem convertTime_eq {timeMs : ℕ} (h : timeMs ≠ 0) :
    convertTime timeMs = .ok (infoAfter (timeMs / 60000 % 2 ^ 32) (timeMs / 1000 % 60)) := by
  obtain ⟨minutes, hminutes⟩ : ∃ minutes, minutes = timeMs / 60000 % 2 ^ 32 := ⟨_, rfl⟩
  have hdiv : timeMs / 1000 / 60 % 2 ^ 32 = minutes := by omega
  have hdays : minutes / 60 / 24 = minutes / 1440 := by omega
  have hbound : minutes / 1440 ≤ lastDay := by
    unfold lastDay
    omega
  obtain ⟨hdate, hweek⟩ := getDate_eq hbound
  have hseven : weekdayAfter (minutes / 1440) < 7 := Nat.mod_lt _ (by decide)
  have hbit : 2 ^ weekdayAfter (minutes / 1440) % 2 ^ 8 = 2 ^ weekdayAfter (minutes / 1440) :=
    Nat.mod_eq_of_lt (Nat.pow_lt_pow_right (by decide) (by omega))
  unfold convertTime
  rw [if_neg h]
  simp only [hdiv, hdays, hdate, hweek, hbit, ← hminutes]
  rfl

/-- The last millisecond of the year 9999. -/
def lastMs9999 : ℕ := 253402300799999

theorem convertTime_calendar {timeMs : ℕ} (h : 1 ≤ timeMs) (h' : timeMs ≤ lastMs9999) :
    convertTime timeMs = .ok
      { date := dateAfter (timeMs / 86400000)
        week := 1 <<< weekdayAfter (timeMs / 86400000)
        hour := timeMs / 3600000 % 24
        min := timeMs / 60000 % 60
        sec := timeMs / 1000 % 60 } := by
  unfold lastMs9999 at h'
  have hminutes : timeMs / 60000 % 2 ^ 32 = timeMs / 60000 := by omega
  have hdays : timeMs / 60000 / 1440 = timeMs / 86400000 := by omega
  have hhours : timeMs / 60000 / 60 = timeMs / 3600000 := by omega
  rw [convertTime_eq (by omega), hminutes, infoAfter, hdays, hhours, Nat.one_shiftLeft]

/-- 29 February 2024 was a Thursday. -/
theorem convertTime_leapDay : 1 ≤ 1709210096789 ∧ 1709210096789 ≤ lastMs9999 ∧
    convertTime 1709210096789 = .ok
      { date := dateAfter 19782, week := 1 <<< weekdayAfter 19782, hour := 12, min := 34, sec := 56 } :=
  ⟨by decide, by decide, convertTime_calendar (by decide) (by decide)⟩

end IotConnect
