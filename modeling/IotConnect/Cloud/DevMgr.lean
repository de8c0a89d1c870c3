import IotConnect.Common.Errcode
import IotConnect.Foundations.Trace
import Mathlib.Data.List.Nodup

/-! # The lists of sub-devices (`m2m_cloud_dev_mgr.c`)

A sub-device that is set up is put on the list of pending devices, and moved to that of the online ones when the cloud
gave it an authentication code. `CloudProcessSubData` allocates a record, which `AddCloudDeviceInfo` copies into the node
it allocates: the record is freed if that fails, and never if it succeeds. Nothing counts the pending devices. The
duplicate test of each function looks at one list, and `MoveCloudDeviceToOnline` takes the node off the pending list
before its test can fail. -/
namespace IotConnect.Cloud
open Trace
set_option autoImplicit false

inductive M2mCloudDevState
  | online
  | pending
  | sync
  deriving DecidableEq

structure CloudDevInfo where
  deviceId : List UInt8
  online : Bool
  state : M2mCloudDevState
  deriving DecidableEq

/-- The manager, and the blocks that were allocated and not freed: the nodes and the records. `added` has the devices
that were put on a list. -/
structure CloudDeviceListManager where
  pendingList : List CloudDevInfo
  onlineList : List CloudDevInfo
  pendingCount : ℕ
  onlineCount : ℕ
  nodes : ℕ
  records : ℕ
  added : List (List UInt8)

def CloudDeviceListManager.init : CloudDeviceListManager := ⟨[], [], 0, 0, 0, 0, []⟩

/-- A device without an id is never found. -/
def isCloudDeviceInfoExist (devId : List UInt8) (list : List CloudDevInfo) : Bool :=
  devId ≠ [] && list.any fun devInfo => devInfo.deviceId = devId

/-- The node to insert. -/
def addCloudDeviceInfo (malloc : Bool) (deviceId : List UInt8) (online : Bool) (list : List CloudDevInfo) :
    Except IotcRet CloudDevInfo :=
  if isCloudDeviceInfoExist deviceId list then .error .error
  else if malloc = false then .error .memErrMalloc
  else .ok ⟨deviceId, online, .pending⟩

/-- Up to the switch of the state machine; `record` and `node` are the outcomes of the two allocations. -/
def cloudProcessSubData (record node : Bool) (deviceId : List UInt8) (online : Bool) (m : CloudDeviceListManager) :
    CloudDeviceListManager :=
  if isCloudDeviceInfoExist deviceId m.pendingList then m
  else if record = false then m
  else
    match addCloudDeviceInfo node deviceId online m.pendingList with
    | .error _ => m
    | .ok newNode =>
      { m with
        pendingList := m.pendingList ++ [newNode]
        nodes := m.nodes + 1
        records := m.records + 1
        added := deviceId :: m.added }

def moveCloudDeviceToOnline (devId : List UInt8) (m : CloudDeviceListManager) : IotcRet × CloudDeviceListManager :=
  if devId = [] then (.errParamInvalid, m)
  else
    match m.pendingList.find? fun devInfo => devInfo.deviceId = devId with
    | none => (.error, m)
    | some cdInfo =>
      let m := { m with pendingList := m.pendingList.eraseP fun devInfo => devInfo.deviceId = devId }
      if isCloudDeviceInfoExist devId m.onlineList then (.error, m)
      else (.ok, { m with onlineList := m.onlineList ++ [cdInfo], onlineCount := m.onlineCount + 1 })

inductive DevMgrEvent
  | setup (record node : Bool) (deviceId : List UInt8) (online : Bool)
  | authCode (devId : List UInt8)

def devMgrStep (m : CloudDeviceListManager) : DevMgrEvent → CloudDeviceListManager
  | .setup record node deviceId online => cloudProcessSubData record node deviceId online m
  | .authCode devId => (moveCloudDeviceToOnline devId m).2

/-! ## What is true of the lists -/

def ids (list : List CloudDevInfo) : List (List UInt8) := list.map CloudDevInfo.deviceId

structure ListsKept (m : CloudDeviceListManager) : Prop where
  distinct : (ids m.pendingList ++ ids m.onlineList).Nodup
  present : ∀ devId ∈ m.added, devId ∈ ids m.pendingList ++ ids m.onlineList
  pendingCount : m.pendingCount = m.pendingList.length
  onlineCount : m.onlineCount = m.onlineList.length
  nodes : m.nodes = m.pendingList.length + m.onlineList.length
  records : m.records = 0

/-- The online devices are counted and distinct, and so are the pending ones with an id; none of the pending ones is
counted, and every device that was added left a record. -/
structure ListsAccounted (m : CloudDeviceListManager) : Prop where
  pendingCount : m.pendingCount = 0
  onlineCount : m.onlineCount = m.onlineList.length
  pending : ((ids m.pendingList).filter (· ≠ [])).Nodup
  online : (ids m.onlineList).Nodup
  nodes : m.pendingList.length + m.onlineList.length ≤ m.nodes
  records : m.records = m.added.length
  added : m.nodes = m.added.length

theorem exist_eq_false {devId : List UInt8} (hne : devId ≠ []) {list : List CloudDevInfo} :
    isCloudDeviceInfoExist devId list = false ↔ devId ∉ ids list := by
  unfold isCloudDeviceInfoExist ids
  rw [decide_eq_true hne, Bool.true_and, List.any_eq_false, List.mem_map, not_exists]
  exact ⟨fun h devInfo hmem => h devInfo hmem.1 (decide_eq_true hmem.2),
    fun h devInfo hmem heq => h devInfo ⟨hmem, of_decide_eq_true heq⟩⟩

section
variable {m : CloudDeviceListManager} (h : ListsAccounted m)
include h

theorem ListsAccounted.setup (record node : Bool) (deviceId : List UInt8) (online : Bool) :
    ListsAccounted (cloudProcessSubData record node deviceId online m) := by
  unfold cloudProcessSubData addCloudDeviceInfo
  split_ifs with hexist hrecord hnode
  · exact h
  · exact h
  · exact h
  · refine ⟨h.pendingCount, h.onlineCount, ?_, h.online, ?_, congrArg (· + 1) h.records, congrArg (· + 1) h.added⟩
    · unfold ids
      dsimp only
      rw [List.map_append, List.filter_append]
      by_cases hne : deviceId = []
      · subst hne
        simpa [ids] using h.pending
      · have hnew := (exist_eq_false hne).mp (Bool.not_eq_true _ ▸ hexist)
        have hlast : ([⟨deviceId, online, .pending⟩] : List CloudDevInfo).map CloudDevInfo.deviceId = [deviceId] := rfl
        rw [hlast, List.filter_cons_of_pos (by simpa using hne), List.filter_nil]
        rw [← List.concat_eq_append]
        exact List.Nodup.concat (fun hmem => hnew (List.mem_filter.mp hmem).1) h.pending
    · dsimp only
      rw [List.length_append, List.length_singleton]
      have := h.nodes
      omega

theorem ListsAccounted.authCode (devId : List UInt8) : ListsAccounted (moveCloudDeviceToOnline devId m).2 := by
  unfold moveCloudDeviceToOnline
  split_ifs with hne
  · exact h
  split
  · exact h
  next cdInfo hfind =>
  have hid : cdInfo.deviceId = devId := by simpa using List.find?_some hfind
  have hlength : (m.pendingList.eraseP fun devInfo => devInfo.deviceId = devId).length + 1 = m.pendingList.length := by
    rw [List.length_eraseP_of_mem (List.mem_of_find?_eq_some hfind) (List.find?_some hfind)]
    exact Nat.sub_add_cancel (List.length_pos_of_mem (List.mem_of_find?_eq_some hfind))
  have hpending : ((ids (m.pendingList.eraseP fun devInfo => devInfo.deviceId = devId)).filter (· ≠ [])).Nodup :=
    h.pending.sublist (List.Sublist.filter _ (List.Sublist.map _ (List.eraseP_sublist)))
  have hnodes := h.nodes
  dsimp only
  split_ifs with hexist
  · exact ⟨h.pendingCount, h.onlineCount, hpending, h.online, by dsimp only; omega, h.records, h.added⟩
  · refine ⟨h.pendingCount, ?_, hpending, ?_, ?_, h.records, h.added⟩
    · dsimp only
      rw [List.length_append, List.length_singleton, h.onlineCount]
    · have hnew := (exist_eq_false hne).mp (Bool.not_eq_true _ ▸ hexist)
      unfold ids at hnew ⊢
      dsimp only
      rw [List.map_append, List.map_singleton, hid, ← List.concat_eq_append]
      exact List.Nodup.concat hnew h.online
    · dsimp only
      rw [List.length_append, List.length_singleton]
      omega

theorem ListsAccounted.step (e : DevMgrEvent) : ListsAccounted (devMgrStep m e) := by
  cases e with
  | setup record node deviceId online => exact h.setup record node deviceId online
  | authCode devId => exact h.authCode devId

/-- While nothing was added there is nothing on the lists. -/
theorem ListsAccounted.empty (hadded : m.added = []) : m.pendingList = [] ∧ m.onlineList = [] := by
  have hnodes := h.nodes
  rw [h.added, hadded, List.length_nil] at hnodes
  exact ⟨List.length_eq_zero_iff.mp (by omega), List.length_eq_zero_iff.mp (by omega)⟩

theorem ListsAccounted.kept_iff : ListsKept m ↔ m.added = [] := by
  constructor
  · intro hkept
    exact List.length_eq_zero_iff.mp (h.records.symm.trans hkept.records)
  · intro hadded
    obtain ⟨hpending, honline⟩ := h.empty hadded
    refine ⟨?_, fun devId hmem => ?_, ?_, h.onlineCount, ?_, ?_⟩
    · rw [hpending, honline]
      exact List.nodup_nil
    · rw [hadded] at hmem
      exact absurd hmem List.not_mem_nil
    · rw [h.pendingCount, hpending, List.length_nil]
    · rw [h.added, hadded, hpending, honline]
      rfl
    · rw [h.records, hadded, List.length_nil]

end

/-- A setup whose two allocations succeed. -/
def DevMgrEvent.allocates : DevMgrEvent → Bool
  | .setup record node _ _ => record && node
  | .authCode _ => false

theorem moveCloudDeviceToOnline_added (devId : List UInt8) (m : CloudDeviceListManager) :
    (moveCloudDeviceToOnline devId m).2.added = m.added := by
  unfold moveCloudDeviceToOnline
  split_ifs
  · rfl
  split
  · rfl
  dsimp only
  split_ifs <;> rfl

theorem step_added_iff {m : CloudDeviceListManager} (h : ListsAccounted m) (e : DevMgrEvent) :
    (devMgrStep m e).added = [] ↔ m.added = [] ∧ e.allocates = false := by
  cases e with
  | authCode devId =>
    unfold devMgrStep
    dsimp only
    rw [moveCloudDeviceToOnline_added]
    exact ⟨fun hadded => ⟨hadded, rfl⟩, fun hadded => hadded.1⟩
  | setup record node deviceId online =>
    unfold devMgrStep cloudProcessSubData addCloudDeviceInfo DevMgrEvent.allocates
    dsimp only
    split_ifs with hexist hrecord hnode
    · refine ⟨fun hadded => ?_, fun hadded => hadded.1⟩
      rw [(h.empty hadded).1, isCloudDeviceInfoExist, List.any_nil, Bool.and_false] at hexist
      cases hexist
    · rw [hrecord, Bool.false_and]
      exact ⟨fun hadded => ⟨hadded, rfl⟩, fun hadded => hadded.1⟩
    · rw [hnode, Bool.and_false]
      exact ⟨fun hadded => ⟨hadded, rfl⟩, fun hadded => hadded.1⟩
    · refine ⟨fun hadded => (by cases hadded), fun hboth => ?_⟩
      rw [Bool.not_eq_false] at hrecord hnode
      rw [hrecord, hnode] at hboth
      cases hboth.2

theorem run_added_iff {m : CloudDeviceListManager} (h : ListsAccounted m) (es : List DevMgrEvent) :
    (run devMgrStep m es).added = [] ↔ m.added = [] ∧ ∀ e ∈ es, e.allocates = false := by
  induction es generalizing m with
  | nil => exact ⟨fun hadded => ⟨hadded, fun _ he => absurd he List.not_mem_nil⟩, fun hboth => hboth.1⟩
  | cons e es ih => rw [run_cons, ih (h.step e), step_added_iff h, and_assoc, List.forall_mem_cons]

theorem run_accounted (es : List DevMgrEvent) : ListsAccounted (run devMgrStep .init es) := by
  have hinit : ListsAccounted .init := ⟨rfl, rfl, List.nodup_nil, List.nodup_nil, Nat.le_refl _, rfl, rfl⟩
  exact run_invariant (fun _ e _ h => h.step e) (along_of_forall (fun _ _ _ => trivial) _) hinit

/-- The lists are kept exactly if no setup ever gets its memory, that is if no device is ever added. -/
theorem listsKept_iff (es : List DevMgrEvent) :
    ListsKept (run devMgrStep .init es) ↔ ∀ e ∈ es, e.allocates = false := by
  have hinit : ListsAccounted .init := run_accounted []
  rw [(run_accounted es).kept_iff, run_added_iff hinit]
  exact ⟨fun h => h.2, fun h => ⟨rfl, h⟩⟩

/-- One setup leaks its record and is not counted; a second one for the device, after it came online, puts it on both
lists, and moving it again loses the node. -/
theorem listsKept_fails :
    let setup : DevMgrEvent := .setup true true [97] true
    let twice := run devMgrStep .init [setup, .authCode [97], setup]
    let moved := run devMgrStep .init [setup, .authCode [97], setup, .authCode [97]]
    ¬ ListsKept (run devMgrStep .init [setup]) ∧ ids twice.pendingList = [[97]] ∧ ids twice.onlineList = [[97]] ∧
      moved.nodes = 2 ∧ ids moved.pendingList = [] ∧ ids moved.onlineList = [[97]] := by
  exact ⟨fun h => absurd h.records (by decide), by decide⟩

end IotConnect.Cloud
