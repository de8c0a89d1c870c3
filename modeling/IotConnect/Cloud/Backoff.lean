import IotConnect.Cloud.Context

/-! # Backing off from the cloud (`m2m_cloud_backoff.c`)

A device that logs in waits longer after each attempt to connect. The clock and the random values are
inputs. -/
namespace IotConnect.Cloud
set_option autoImplicit false

def cloudBackoffMaxCnt : UInt8 := 5
def cloudBackoffExpTimes : UInt32 := 3
def cloudBackoffFirstMaxTime : UInt32 := 5 * 1000
def cloudBackoffMaxTime : UInt32 := 10 * 60 * 1000

def isM2mCloudBackoffTime (now : UInt32) (c : CloudContext) : Bool :=
  c.enableBackoff && c.backoffInfo.cnt ≠ 0 &&
    utilsDeltaTime now c.backoffInfo.before < c.backoffInfo.interval

def m2mCloudBackoffInit (c : CloudContext) : CloudContext :=
  if c.register then c else { c with enableBackoff := true, backoffInfo := { c.backoffInfo with cnt := 0 } }

def backoffRange : ℕ → UInt32 → UInt32 → UInt32 × UInt32
  | 0, min, max => (min, max)
  | cnt + 1, _, max => backoffRange cnt max (max * cloudBackoffExpTimes)

def m2mCloudBackoffUpdate (random now : UInt32) (c : CloudContext) : CloudContext :=
  if c.enableBackoff = false then c
  else
    let (min, max) := backoffRange c.backoffInfo.cnt.toNat 0 cloudBackoffFirstMaxTime
    let max := if max > cloudBackoffMaxTime then (if min > cloudBackoffMaxTime then min else cloudBackoffMaxTime) else max
    { c with backoffInfo :=
        { cnt := if c.backoffInfo.cnt < cloudBackoffMaxCnt then c.backoffInfo.cnt + 1 else c.backoffInfo.cnt
          before := now
          interval := random % (max - min) + min } }

theorem m2mCloudBackoffInit_eq (c : CloudContext) : ∃ enable info,
    m2mCloudBackoffInit c = { c with enableBackoff := enable, backoffInfo := info } := by
  unfold m2mCloudBackoffInit
  split_ifs
  · exact ⟨_, _, rfl⟩
  · exact ⟨_, _, rfl⟩

theorem m2mCloudBackoffUpdate_eq (random now : UInt32) (c : CloudContext) : ∃ info,
    m2mCloudBackoffUpdate random now c = { c with backoffInfo := info } := by
  unfold m2mCloudBackoffUpdate
  by_cases henable : c.enableBackoff = false
  · rw [if_pos henable]
    exact ⟨_, rfl⟩
  · rw [if_neg henable]
    exact ⟨_, rfl⟩

end IotConnect.Cloud
