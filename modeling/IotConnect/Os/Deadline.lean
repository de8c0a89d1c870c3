import Mathlib.Tactic.Common
import Mathlib.Algebra.Order.Group.Int

/-! # Waiting with a deadline (`IotcMutexLock`, `IotcSemWait` of `posix/iotc_os.c`)

Both functions turn a timeout in milliseconds into an absolute `timespec`, each with a carry of its own.
Seconds are integers: `time_t` does not overflow here. -/
namespace IotConnect.Os
set_option autoImplicit false

structure Timespec where
  tvSec : ℤ
  tvNsec : ℤ
  deriving DecidableEq

/-- The instant in nanoseconds. -/
def Timespec.ns (ts : Timespec) : ℤ := ts.tvSec * 1000000000 + ts.tvNsec

def Timespec.Normal (ts : Timespec) : Prop := 0 ≤ ts.tvNsec ∧ ts.tvNsec < 1000000000

instance (ts : Timespec) : Decidable ts.Normal := inferInstanceAs (Decidable (_ ∧ _))

/-- What `clock_gettime` gives. -/
structure ClockTime extends Timespec where
  normal : toTimespec.Normal

/-- The width of `long`. -/
inductive LongWidth
  | w32
  | w64

def LongWidth.max : LongWidth → ℤ
  | w32 => 2147483647
  | w64 => 9223372036854775807

def waitForever : UInt32 := 0xFFFFFFFF

/-- `ms` is `nsecPart` nanoseconds and whole seconds. -/
def nsecPart (ms : UInt32) : ℤ := ms.toNat % 1000 * 1000000

/-- The `timespec` of `IotcMutexLock`. -/
def mutexDeadline (w : LongWidth) (now : Timespec) (ms : UInt32) : Timespec :=
  let sec := now.tvSec + ms.toNat / 1000
  if w.max - nsecPart ms ≤ now.tvNsec then
    ⟨sec + w.max % 1000000000, now.tvNsec - (w.max - nsecPart ms)⟩
  else ⟨sec, now.tvNsec + nsecPart ms⟩

/-- The `timespec` of `IotcSemWait`. -/
def semDeadline (now : Timespec) (ms : UInt32) : Timespec :=
  let sec := now.tvSec + ms.toNat / 1000
  if 1000000000 - nsecPart ms ≤ now.tvNsec then ⟨sec + 1, now.tvNsec - (1000000000 - nsecPart ms)⟩
  else ⟨sec, now.tvNsec + nsecPart ms⟩

inductive OsRet
  | ok
  | errParamInvalid
  | errTimeout
  | osErrMutexLock
  | osErrWaitSem
  deriving DecidableEq

/-- What the calls of the system return: `0`, `ETIMEDOUT`, `EINTR` or another error. -/
inductive Errno
  | zero
  | etimedout
  | eintr
  | other
  deriving DecidableEq

/-- The call that `IotcMutexLock` makes. -/
inductive MutexCall
  | lock
  | timedlock (ts : Timespec)
  deriving DecidableEq

/-- The call that is made, if any, and what is returned. -/
def iotcMutexLock (w : LongWidth) (os : MutexCall → Errno) (id : Bool) (clock : Option ClockTime) (ms : UInt32) :
    Option MutexCall × OsRet :=
  if id = false then (none, .errParamInvalid)
  else if ms = waitForever then
    (some .lock, match os .lock with
      | .zero => .ok
      | _ => .osErrMutexLock)
  else
    match clock with
    | none => (none, .osErrMutexLock)
    | some now =>
      let ts := mutexDeadline w now.toTimespec ms
      (some (.timedlock ts), match os (.timedlock ts) with
        | .zero => .ok
        | .etimedout => .errTimeout
        | _ => .osErrMutexLock)

/-- A semaphore: the instant at which the waiting task can take it, and that at which a signal interrupts the task. -/
structure Sem where
  free : Option ℤ
  signal : Option ℤ

/-- A semaphore that is free in time is taken; otherwise the call waits for the signal or the deadline, if that is
one. -/
def semTimedwait (sem : Sem) (ts : Timespec) : Errno :=
  if sem.free.any fun t => t ≤ ts.ns ∧ sem.signal.all (t ≤ ·) then .zero
  else if ¬ ts.Normal then .other
  else if sem.signal.any (· ≤ ts.ns) then .eintr
  else .etimedout

/-- The deadline that is passed to `sem_timedwait`, if it is called, and what is returned. -/
def iotcSemWait (id : Option Sem) (clock : Option ClockTime) (ms : UInt32) : Option Timespec × OsRet :=
  match id, clock with
  | none, _ => (none, .errParamInvalid)
  | some _, none => (none, .osErrWaitSem)
  | some sem, some now =>
    let ts := semDeadline now.toTimespec ms
    (some ts, match semTimedwait sem ts with
      | .zero => .ok
      | .etimedout => .errTimeout
      | _ => .osErrWaitSem)

/-- The deadline is normalised and `ms` milliseconds after `now`. -/
def Exact (ts : Timespec) (now : ClockTime) (ms : UInt32) : Prop :=
  ts.Normal ∧ ts.ns = now.ns + ms.toNat * 1000000

/-! ## The two carries -/

variable (w : LongWidth) (now : ClockTime) (ms : UInt32)

theorem nsecPart_bounds : 0 ≤ nsecPart ms ∧ nsecPart ms ≤ 999000000 := by
  unfold nsecPart
  omega

theorem semDeadline_exact : Exact (semDeadline now.toTimespec ms) now ms := by
  have hnow := now.normal
  unfold Exact semDeadline
  split
  all_goals
    unfold Timespec.Normal Timespec.ns nsecPart at *
    dsimp only
    omega

/-- `LONG_MAX` is too large for the carry ever to be taken. -/
theorem mutexDeadline_eq :
    mutexDeadline w now.toTimespec ms = ⟨now.tvSec + ms.toNat / 1000, now.tvNsec + nsecPart ms⟩ := by
  have hnow := now.normal.2
  have hpart := nsecPart_bounds ms
  have hmax : 2147483647 ≤ w.max := by cases w <;> decide
  have hcarry : ¬ w.max - nsecPart ms ≤ now.tvNsec := by omega
  unfold mutexDeadline
  rw [if_neg hcarry]

theorem mutexDeadline_exact_iff :
    Exact (mutexDeadline w now.toTimespec ms) now ms ↔ now.tvNsec + nsecPart ms < 1000000000 := by
  have hnow := now.normal.1
  rw [mutexDeadline_eq]
  unfold Exact Timespec.Normal Timespec.ns nsecPart
  dsimp only
  omega

theorem semTimedwait_eq_etimedout_iff (sem : Sem) {ts : Timespec} (h : ts.Normal) :
    semTimedwait sem ts = .etimedout ↔ (∀ t ∈ sem.free, ts.ns < t) ∧ ∀ t ∈ sem.signal, ts.ns < t := by
  obtain ⟨free, signal⟩ := sem
  unfold semTimedwait
  cases free with
  | none => cases signal <;> simp [h]
  | some t =>
    rcases lt_or_ge ts.ns t with ht | ht
    · cases signal <;> simp [h, ht, not_le.mpr ht]
    · cases signal with
      | none => simp [ht, not_lt.mpr ht]
      | some u =>
        by_cases htu : t ≤ u
        · simp [ht, htu, not_lt.mpr ht]
        · have hu : u ≤ ts.ns := by omega
          simp [h, htu, hu, not_lt.mpr hu]

theorem iotcSemWait_eq_errTimeout_iff (sem : Sem) : (iotcSemWait (some sem) (some now) ms).2 = .errTimeout ↔
    (∀ t ∈ sem.free, now.ns + ms.toNat * 1000000 < t) ∧ ∀ t ∈ sem.signal, now.ns + ms.toNat * 1000000 < t := by
  obtain ⟨hnormal, hns⟩ := semDeadline_exact now ms
  rw [← hns, ← semTimedwait_eq_etimedout_iff sem hnormal, iotcSemWait]
  cases semTimedwait sem (semDeadline now.toTimespec ms) <;> simp

/-! ## The deadlines are exact

`IotcMutexLock` never carries, and `IotcSemWait` takes the wait-forever value for a timeout. -/

/-- Whatever the system answers: the two functions pass an exact deadline, and the wait-forever value does not time
out. -/
def DeadlinesExact (sem : Sem) : Prop :=
  (ms ≠ waitForever →
    (∀ os, ∃ ts, (iotcMutexLock w os true (some now) ms).1 = some (.timedlock ts) ∧ Exact ts now ms) ∧
    ∃ ts, (iotcSemWait (some sem) (some now) ms).1 = some ts ∧ Exact ts now ms) ∧
  (ms = waitForever → (iotcSemWait (some sem) (some now) ms).2 ≠ .errTimeout)

theorem iotcMutexLock_exact_iff (os : MutexCall → Errno) (h : ms ≠ waitForever) :
    (∃ ts, (iotcMutexLock w os true (some now) ms).1 = some (.timedlock ts) ∧ Exact ts now ms) ↔
      now.tvNsec + nsecPart ms < 1000000000 := by
  have hcall : (iotcMutexLock w os true (some now) ms).1 = some (.timedlock (mutexDeadline w now.toTimespec ms)) := by
    rw [iotcMutexLock, if_neg (by decide), if_neg h]
  rw [hcall, ← mutexDeadline_exact_iff w]
  constructor
  · rintro ⟨ts, hts, hexact⟩
    cases hts
    exact hexact
  · exact fun hexact => ⟨_, rfl, hexact⟩

theorem deadlinesExact_iff (sem : Sem) :
    DeadlinesExact w now ms sem ↔
      (ms ≠ waitForever → now.tvNsec + ms.toNat % 1000 * 1000000 < 1000000000) ∧
      (ms = waitForever → (∃ t ∈ sem.free, t ≤ now.ns + 4294967295 * 1000000) ∨
        ∃ t ∈ sem.signal, t ≤ now.ns + 4294967295 * 1000000) := by
  unfold DeadlinesExact
  apply and_congr
  · apply forall_congr'
    intro hms
    have hsem : ∃ ts, (iotcSemWait (some sem) (some now) ms).1 = some ts ∧ Exact ts now ms :=
      ⟨_, rfl, semDeadline_exact now ms⟩
    rw [and_iff_left hsem]
    exact ⟨fun h => (iotcMutexLock_exact_iff w now ms (fun _ => .zero) hms).mp (h _),
      fun h os => (iotcMutexLock_exact_iff w now ms os hms).mpr h⟩
  · apply forall_congr'
    intro hms
    have hnat : (ms.toNat : ℤ) = 4294967295 := by rw [hms]; rfl
    rw [Ne, iotcSemWait_eq_errTimeout_iff, hnat, not_and_or]
    simp only [not_forall, not_lt, exists_prop]

theorem halfPast_normal : Timespec.Normal ⟨0, 500000000⟩ := by decide

/-- At half a second past a full second. -/
def halfPast : ClockTime := ⟨_, halfPast_normal⟩

theorem deadlines_fail_at_halfPast :
    (iotcMutexLock .w64 (fun _ => .other) true (some halfPast) 600).1 = some (.timedlock ⟨0, 1100000000⟩) ∧
      ¬ DeadlinesExact .w64 halfPast 600 ⟨none, none⟩ ∧
      (iotcSemWait (some ⟨none, none⟩) (some halfPast) waitForever).2 = .errTimeout ∧
      ¬ DeadlinesExact .w64 halfPast waitForever ⟨none, none⟩ := by
  have hcall : (iotcMutexLock .w64 (fun _ => .other) true (some halfPast) 600).1 =
      some (.timedlock ⟨0, 1100000000⟩) := by decide
  refine ⟨hcall, ?_, by decide, ?_⟩
  · intro h
    obtain ⟨ts, hts, hexact⟩ := (h.1 (by decide)).1 fun _ => .other
    rw [hcall] at hts
    cases hts
    have hnormal := hexact.1.2
    revert hnormal
    decide
  · intro h
    exact h.2 rfl (by decide)

end IotConnect.Os
