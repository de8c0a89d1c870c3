import IotConnect.Common.TimeInfo
import IotConnect.Foundations.Trace

/-! # The local time (`utils_time.c`)

`UtilsSetUtcTimeStamp` folds the zone of that moment into a local time, which `UtilsGetLocalTimeInfo` then counts on;
`UtilsSetTimezone` only stores the zone. The lock of the context is always got. -/
namespace IotConnect
open Calendar Trace
set_option autoImplicit false

structure TimeZoneInfo where
  hour : ℕ
  min : ℕ
  isEast : Bool
  isInit : Bool

structure TimeContext where
  isTimeSet : Bool
  lastUtcTime : ℕ
  lastLocalTime : ℕ
  lastSystemTime : UInt32
  timeZone : TimeZoneInfo

/-- The static context. -/
def timeCtx : TimeContext := ⟨false, 0, 0, 0, ⟨0, 0, false, false⟩⟩

def setDefaultTimezone : TimeZoneInfo := ⟨8, 0, true, true⟩

/-- The test of `IsTimeOverflow`, which returns its negation. -/
def timeOverflows (deltaTime lastTime : ℕ) : Bool := 2 ^ 64 - 1 - lastTime < deltaTime

def calcLocalTimeFromUtcTime (ctx : TimeContext) : Except TimeErr TimeContext :=
  let deltaTime := ctx.timeZone.hour * 3600000 + ctx.timeZone.min * 60000
  if ctx.timeZone.isEast = false then
    .ok { ctx with lastLocalTime := (((ctx.lastUtcTime : ℤ) - deltaTime) % 2 ^ 64).toNat }
  else if timeOverflows deltaTime ctx.lastUtcTime then .error .timeOverflow
  else .ok { ctx with lastLocalTime := ctx.lastUtcTime + deltaTime }

def utilsSetUtcTimeStamp (stamp : UInt64) (curStamp : UInt32) (ctx : TimeContext) : Except TimeErr Unit × TimeContext :=
  let timeZone := if ctx.timeZone.isInit = false then setDefaultTimezone else ctx.timeZone
  let ctx := { ctx with timeZone := timeZone, lastUtcTime := stamp.toNat, lastSystemTime := curStamp }
  match calcLocalTimeFromUtcTime ctx with
  | .error err => (.error err, ctx)
  | .ok ctx => (.ok (), { ctx with isTimeSet := true })

/-- The hours and minutes of a call of `UtilsSetTimezone`, of the same sign. -/
structure Zone where
  hour : ℤ
  min : ℤ
  hour_range : -12 ≤ hour ∧ hour ≤ 14
  min_range : -59 ≤ min ∧ min ≤ 59
  same_sign : 0 ≤ hour ∧ 0 ≤ min ∨ hour ≤ 0 ∧ min ≤ 0

def Zone.offset (z : Zone) : ℤ := 60 * z.hour + z.min

/-- `(uint8_t)abs(hour)` and `(uint8_t)min`. -/
def Zone.stored (z : Zone) : TimeZoneInfo := ⟨z.hour.natAbs % 256, (z.min % 256).toNat, 0 < z.hour, true⟩

def utilsSetTimezone (z : Zone) (ctx : TimeContext) : TimeContext := { ctx with timeZone := z.stored }

def getTimeInfo (curStamp : UInt32) (ctx : TimeContext) (lastTime : ℕ) : Except TimeErr TimeInfo :=
  if ctx.isTimeSet = false then .error .timeNotSync
  else
    let deltaTime := (utilsDeltaTime curStamp ctx.lastSystemTime).toNat
    if timeOverflows deltaTime lastTime then .error .timeOverflow
    else convertTime ((deltaTime + lastTime) % 2 ^ 64)

def utilsGetLocalTimeInfo (curStamp : UInt32) (ctx : TimeContext) : Except TimeErr TimeInfo :=
  getTimeInfo curStamp ctx ctx.lastLocalTime

/-! ## The calls so far -/

inductive TimeCall
  | setUtc (stamp : UInt64) (curStamp : UInt32)
  | setTimezone (z : Zone)

def timeStep (ctx : TimeContext) : TimeCall → TimeContext
  | .setUtc stamp curStamp => (utilsSetUtcTimeStamp stamp curStamp ctx).2
  | .setTimezone z => utilsSetTimezone z ctx

/-- The zone set last. -/
def lastZone (z : Option Zone) : List TimeCall → Option Zone
  | [] => z
  | .setUtc _ _ :: calls => lastZone z calls
  | .setTimezone z' :: calls => lastZone (some z') calls

/-- The offset in minutes that was asked for, UTC+8 where no zone was set. -/
def offsetOf (z : Option Zone) : ℤ := z.elim 480 Zone.offset

/-- The offset in minutes that the stored bytes stand for. -/
def TimeZoneInfo.minutes (t : TimeZoneInfo) : ℤ :=
  if t.isEast then 60 * t.hour + t.min else -(60 * t.hour + t.min)

def foldedOffset (z : Option Zone) : ℤ := (z.elim setDefaultTimezone Zone.stored).minutes

theorem offset_bounds (z : Option Zone) : -1000 < foldedOffset z ∧ foldedOffset z < 1000 ∧
    -1000 < offsetOf z ∧ offsetOf z < 1000 := by
  cases z with
  | none => decide
  | some z =>
    obtain ⟨h, m, hh, hm, hs⟩ := z
    simp only [foldedOffset, offsetOf, Option.elim_some, Zone.stored, Zone.offset, TimeZoneInfo.minutes]
    split_ifs <;> omega

/-- The zone of the context is the one set last, or the default one. -/
structure Zoned (z : Option Zone) (ctx : TimeContext) : Prop where
  zone : (if ctx.timeZone.isInit = false then setDefaultTimezone else ctx.timeZone) = z.elim setDefaultTimezone Zone.stored
  local_lt : ctx.lastLocalTime < 2 ^ 64

/-- What is known after the stamp `s` was set at `t`. -/
structure Stamped (z : Option Zone) (s : UInt64) (t : UInt32) (ctx : TimeContext) : Prop where
  system : ctx.lastSystemTime = t
  local_lt : ctx.lastLocalTime < 2 ^ 64
  folded : (s.toNat : ℤ) + 60000 * foldedOffset z < 2 ^ 64 →
    ctx.isTimeSet = true ∧ (ctx.lastLocalTime : ℤ) = ((s.toNat : ℤ) + 60000 * foldedOffset z) % 2 ^ 64

variable {z : Option Zone} {ctx : TimeContext}

theorem zoned_timeCtx : Zoned none timeCtx := ⟨rfl, by decide⟩

theorem Zoned.setTimezone (h : Zoned z ctx) (z' : Zone) : Zoned (some z') (utilsSetTimezone z' ctx) := ⟨rfl, h.local_lt⟩

theorem isInit_elim (z : Option Zone) : (z.elim setDefaultTimezone Zone.stored).isInit = true := by
  cases z <;> rfl

theorem Zoned.setUtc (h : Zoned z ctx) (s : UInt64) (t : UInt32) :
    Zoned z (utilsSetUtcTimeStamp s t ctx).2 ∧ Stamped z s t (utilsSetUtcTimeStamp s t ctx).2 := by
  have hs := s.toNat_lt
  have hinit := isInit_elim z
  obtain ⟨hzone, hlt⟩ := h
  unfold utilsSetUtcTimeStamp calcLocalTimeFromUtcTime timeOverflows
  simp only [hzone]
  have hfolded : foldedOffset z = (z.elim setDefaultTimezone Zone.stored).minutes := rfl
  generalize hstored : z.elim setDefaultTimezone Zone.stored = stored at hinit hfolded ⊢
  unfold TimeZoneInfo.minutes at hfolded
  cases hdir : stored.isEast with
  | false =>
    simp only [hdir, Bool.false_eq_true, if_false] at hfolded
    simp only [if_true]
    refine ⟨⟨by simp [hinit, hstored], by dsimp only; omega⟩, rfl, by dsimp only; omega, ?_⟩
    intro _
    refine ⟨rfl, ?_⟩
    have hsum : (s.toNat : ℤ) + 60000 * foldedOffset z =
        s.toNat - ((stored.hour * 3600000 + stored.min * 60000 : ℕ) : ℤ) := by
      rw [hfolded]
      omega
    rw [hsum]
    exact Int.toNat_of_nonneg (Int.emod_nonneg _ (by decide))
  | true =>
    simp only [hdir, if_true] at hfolded
    simp only [Bool.true_eq_false, if_false]
    by_cases hover : 2 ^ 64 - 1 - s.toNat < stored.hour * 3600000 + stored.min * 60000
    · rw [if_pos (decide_eq_true hover)]
      refine ⟨⟨by simp [hinit, hstored], hlt⟩, rfl, hlt, ?_⟩
      intro hfits
      omega
    · rw [if_neg (mt of_decide_eq_true hover)]
      refine ⟨⟨by simp [hinit, hstored], by dsimp only; omega⟩, rfl, by dsimp only; omega, ?_⟩
      intro _
      refine ⟨rfl, ?_⟩
      dsimp only
      omega

theorem Zoned.run (h : Zoned z ctx) (calls : List TimeCall) : Zoned (lastZone z calls) (run timeStep ctx calls) := by
  induction calls generalizing z ctx with
  | nil => exact h
  | cons call calls ih =>
    cases call with
    | setUtc s t => exact ih (h.setUtc s t).1
    | setTimezone z' => exact ih (h.setTimezone z')

theorem Stamped.run {s : UInt64} {t : UInt32} (h : Stamped z s t ctx) (zones : List Zone) :
    Stamped z s t (Trace.run timeStep ctx (zones.map TimeCall.setTimezone)) := by
  induction zones generalizing ctx with
  | nil => exact h
  | cons z' zones ih => exact ih ⟨h.system, h.local_lt, h.folded⟩

/-! ## What is reported -/

theorem infoAfter_inj {m m' s s' : ℕ} (h : infoAfter m s = infoAfter m' s') : m = m' ∧ s = s' := by
  simp only [infoAfter, TimeInfo.mk.injEq] at h
  obtain ⟨hdate, _, hhour, hmin, hsec⟩ := h
  have hdays := congrArg Date.number hdate
  rw [dateAfter_number, dateAfter_number] at hdays
  exact ⟨by omega, hsec⟩

theorem utilsDeltaTime_elapsed (t elapsed : UInt32) : utilsDeltaTime (t + elapsed) t = elapsed := by
  rw [utilsDeltaTime_eq]
  grind

theorem utilsGetLocalTimeInfo_eq {t elapsed : UInt32} (hset : ctx.isTimeSet = true) (hsystem : ctx.lastSystemTime = t)
    (hlt : ctx.lastLocalTime < 2 ^ 64) : utilsGetLocalTimeInfo (t + elapsed) ctx =
      if 2 ^ 64 ≤ ctx.lastLocalTime + elapsed.toNat then .error .timeOverflow
      else if ctx.lastLocalTime + elapsed.toNat = 0 then .error .errParamInvalid
      else .ok (infoAfter ((ctx.lastLocalTime + elapsed.toNat) / 60000 % 2 ^ 32)
        ((ctx.lastLocalTime + elapsed.toNat) / 1000 % 60)) := by
  unfold utilsGetLocalTimeInfo getTimeInfo timeOverflows
  simp only [hset, Bool.true_eq_false, if_false, hsystem, utilsDeltaTime_elapsed]
  by_cases hover : 2 ^ 64 ≤ ctx.lastLocalTime + elapsed.toNat
  · have hover' : 2 ^ 64 - 1 - ctx.lastLocalTime < elapsed.toNat := by omega
    rw [if_pos hover, if_pos (decide_eq_true hover')]
  · have hover' : ¬ 2 ^ 64 - 1 - ctx.lastLocalTime < elapsed.toNat := by omega
    have hmod : (elapsed.toNat + ctx.lastLocalTime) % 2 ^ 64 = ctx.lastLocalTime + elapsed.toNat := by omega
    rw [if_neg hover, decide_eq_false hover', if_neg Bool.false_ne_true, hmod]
    split_ifs with hzero
    · rw [hzero]
      rfl
    · exact convertTime_eq hzero

/-- The time that should be reported, in milliseconds after the epoch. -/
def localMs (s : UInt64) (elapsed : UInt32) (offset : ℤ) : ℤ := s.toNat + elapsed.toNat + 60000 * offset

/-- The calendar time of `v` is reported where `v` is positive, and an error otherwise. -/
def Reports (v : ℤ) (res : Except TimeErr TimeInfo) : Prop :=
  (0 < v → res = .ok (infoAfter (v.toNat / 60000) (v.toNat / 1000 % 60))) ∧ (v ≤ 0 → ∃ err, res = .error err)

/-- The offset `u` was folded into the local time and `o` is the one set last. -/
def FoldedRight (s : UInt64) (elapsed : UInt32) (u o : ℤ) : Prop :=
  (0 < localMs s elapsed o → localMs s elapsed o < 60000 * 2 ^ 32 ∧ u = o ∧ 0 ≤ s.toNat + 60000 * u) ∧
  (localMs s elapsed o ≤ 0 →
    0 ≤ s.toNat + 60000 * u ∧ localMs s elapsed u = 0 ∨ s.toNat + 60000 * u < 0 ∧ 0 ≤ localMs s elapsed u)

/-- Times that 32 bits of minutes do not hold are reported as other ones. -/
theorem not_reports_late {res : Except TimeErr TimeInfo} {v : ℤ} (hv : 60000 * 2 ^ 32 ≤ v)
    (hres : ∀ info, res = .ok info → ∃ m sec, m < 2 ^ 32 ∧ info = infoAfter m sec) : ¬ Reports v res := by
  intro h
  obtain ⟨m, sec, hm, heq⟩ := hres _ (h.1 (by omega))
  have := (infoAfter_inj heq).1
  omega

theorem utilsGetLocalTimeInfo_minutes {cur : UInt32} {info : TimeInfo} (h : utilsGetLocalTimeInfo cur ctx = .ok info) :
    ∃ m sec, m < 2 ^ 32 ∧ info = infoAfter m sec := by
  unfold utilsGetLocalTimeInfo getTimeInfo at h
  dsimp only at h
  split_ifs at h
  generalize ((utilsDeltaTime cur ctx.lastSystemTime).toNat + ctx.lastLocalTime) % 2 ^ 64 = ms at h
  by_cases hms : ms = 0
  · rw [hms] at h
    cases h
  · rw [convertTime_eq hms] at h
    cases h
    exact ⟨_, _, Nat.mod_lt _ (by decide), rfl⟩

theorem reports_error_iff (v : ℤ) (err : TimeErr) : Reports v (.error err) ↔ v ≤ 0 := by
  constructor
  · intro h
    by_contra hv
    cases h.1 (by omega)
  · intro hv
    exact ⟨fun hpos => absurd hpos (by omega), fun _ => ⟨err, rfl⟩⟩

theorem reports_ok_iff (v : ℤ) (m sec : ℕ) :
    Reports v (.ok (infoAfter m sec)) ↔ 0 < v ∧ m = v.toNat / 60000 ∧ sec = v.toNat / 1000 % 60 := by
  constructor
  · intro h
    have hpos : 0 < v := by
      by_contra hv
      obtain ⟨err, herr⟩ := h.2 (by omega)
      cases herr
    exact ⟨hpos, infoAfter_inj (Except.ok.inj (h.1 hpos))⟩
  · rintro ⟨hpos, rfl, rfl⟩
    exact ⟨fun _ => rfl, fun hv => absurd hpos (by omega)⟩

theorem reports_iff {s : UInt64} {t elapsed : UInt32} (h : Stamped z s t ctx) {o : ℤ} (ho : -1000 < o ∧ o < 1000) :
    Reports (localMs s elapsed o) (utilsGetLocalTimeInfo (t + elapsed) ctx) ↔
      FoldedRight s elapsed (foldedOffset z) o := by
  obtain ⟨hu, hu', _, _⟩ := offset_bounds z
  have helapsed := elapsed.toNat_lt
  by_cases hlate : 60000 * 2 ^ 32 ≤ localMs s elapsed o
  · have hpos : 0 < localMs s elapsed o := by omega
    apply iff_of_false (not_reports_late hlate fun info => utilsGetLocalTimeInfo_minutes)
    intro hright
    have := (hright.1 hpos).1
    omega
  · unfold localMs at hlate
    obtain ⟨hset, hlocal⟩ := h.folded (by omega)
    rw [utilsGetLocalTimeInfo_eq hset h.system h.local_lt]
    generalize foldedOffset z = u at hu hu' hlocal ⊢
    generalize ctx.lastLocalTime = l at hlocal ⊢
    unfold FoldedRight localMs
    -- a local time before the epoch has wrapped, and comes back with an overflow
    by_cases hneg : (s.toNat : ℤ) + 60000 * u < 0
    · have hl : (l : ℤ) = s.toNat + 60000 * u + 2 ^ 64 := by omega
      have hpos : ¬ l + elapsed.toNat = 0 := by omega
      rw [if_neg hpos]
      split_ifs
      · rw [reports_error_iff]
        omega
      · rw [reports_ok_iff]
        omega
    · have hl : (l : ℤ) = s.toNat + 60000 * u := by omega
      have hover : ¬ 2 ^ 64 ≤ l + elapsed.toNat := by omega
      rw [if_neg hover]
      split_ifs
      · rw [reports_error_iff]
        omega
      · rw [reports_ok_iff]
        omega

/-! ## The calls in any order

A run in which a stamp was set ends with the last stamp and the zones set after it. -/

theorem utilsGetLocalTimeInfo_right_iff (calls : List TimeCall) (s : UInt64) (t : UInt32) (zones : List Zone)
    (elapsed : UInt32) :
    let after := zones.map TimeCall.setTimezone
    let o := offsetOf (lastZone (lastZone none calls) after)
    Reports (localMs s elapsed o)
        (utilsGetLocalTimeInfo (t + elapsed) (run timeStep timeCtx (calls ++ .setUtc s t :: after))) ↔
      FoldedRight s elapsed (foldedOffset (lastZone none calls)) o := by
  have hzoned := zoned_timeCtx.run calls
  have hstamped := (hzoned.setUtc s t).2.run zones
  have ho := offset_bounds (lastZone (lastZone none calls) (zones.map TimeCall.setTimezone))
  dsimp only
  rw [run_append]
  exact reports_iff hstamped ⟨ho.2.2.1, ho.2.2.2⟩

theorem halfHour_valid : (-12 ≤ (0 : ℤ) ∧ (0 : ℤ) ≤ 14) ∧ (-59 ≤ (30 : ℤ) ∧ (30 : ℤ) ≤ 59) ∧
    (0 ≤ (0 : ℤ) ∧ 0 ≤ (30 : ℤ) ∨ (0 : ℤ) ≤ 0 ∧ (30 : ℤ) ≤ 0) := by decide

/-- Half an hour east. -/
def halfHour : Zone := ⟨0, 30, halfHour_valid.1, halfHour_valid.2.1, halfHour_valid.2.2⟩

/-- Midnight of 2 January 1970 is reported as 8:00 where the zone is set after the stamp, and as 23:30 of the day before
where it is set before. -/
theorem halfHour_misreported :
    utilsGetLocalTimeInfo 0 (run timeStep timeCtx [.setUtc 86400000 0, .setTimezone halfHour]) =
      .ok ⟨⟨1970, 1, 2⟩, 16, 8, 0, 0⟩ ∧
    utilsGetLocalTimeInfo 0 (run timeStep timeCtx [.setTimezone halfHour, .setUtc 86400000 0]) =
      .ok ⟨⟨1970, 1, 1⟩, 8, 23, 30, 0⟩ ∧
    ¬ Reports (localMs 86400000 0 30)
      (utilsGetLocalTimeInfo 0 (run timeStep timeCtx [.setUtc 86400000 0, .setTimezone halfHour])) ∧
    ¬ Reports (localMs 86400000 0 30)
      (utilsGetLocalTimeInfo 0 (run timeStep timeCtx [.setTimezone halfHour, .setUtc 86400000 0])) := by
  have hafter : utilsGetLocalTimeInfo 0 (run timeStep timeCtx [.setUtc 86400000 0, .setTimezone halfHour]) =
      .ok (infoAfter 1920 0) := by rfl
  have hbefore : utilsGetLocalTimeInfo 0 (run timeStep timeCtx [.setTimezone halfHour, .setUtc 86400000 0]) =
      .ok (infoAfter 1410 0) := by rfl
  rw [hafter, hbefore, reports_ok_iff, reports_ok_iff]
  exact ⟨by rfl, by rfl, by decide, by decide⟩

end IotConnect
