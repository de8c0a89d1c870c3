import IotConnect.Common.Errcode
import IotConnect.Foundations.Keyed
import IotConnect.Foundations.Trace
import Mathlib.Data.List.Infix
import Mathlib.Data.List.Perm.Subperm
import Mathlib.Algebra.GroupWithZero.Nat

/-! # The connected devices

`sle_conn_device_info.c`: the list of connections, the number of its entries, and the search for the connection of a
device by which `IotcOhSendCustomSecData` finds where to send. A connection has an empty device id until the device has
told its own. The search compares as many characters as it was given, and a deletion counts one less whether or not
there was anything to delete. -/
namespace IotConnect.SleConn
open Trace Keyed
set_option autoImplicit false

def deviceIdMaxStrLen : ℕ := 40

/-- The fields of `IotcConDeviceInfo` that are searched; a device id is the text of the array. -/
structure ConDeviceInfo where
  connID : UInt16
  devId : List UInt8
  deriving DecidableEq

structure ConnDevs where
  list : List ConDeviceInfo
  num : UInt32

namespace ConnDevs

def init : ConnDevs := ⟨[], 0⟩

def isExitSleConnDev (s : ConnDevs) (connID : UInt16) : Bool := s.list.any fun node => node.connID = connID

/-- `SleAddConnDev`; `ok` says whether both allocations succeed. -/
def sleAddConnDev (s : ConnDevs) (connID : UInt16) (ok : Bool) : IotcRet × ConnDevs :=
  if s.isExitSleConnDev connID then (.ok, s)
  else if ok then (.ok, ⟨s.list ++ [⟨connID, []⟩], s.num + 1⟩)
  else (.memErrMalloc, s)

/-- The device id that a connection tells, in `SaveAuthSetupConfigInfo`; one that does not fit leaves an empty one. -/
def setDevId (s : ConnDevs) (connID : UInt16) (devId : List UInt8) : ConnDevs :=
  match s.list.find? fun node => node.connID = connID with
  | none => s
  | some node =>
    { s with
      list := replaceFirst (fun node => node.connID = connID)
        { node with devId := if devId.length ≤ deviceIdMaxStrLen then devId else [] } s.list }

def sleDeleteConnDev (s : ConnDevs) (connID : UInt16) : ConnDevs :=
  ⟨s.list.eraseP fun node => node.connID = connID, s.num - 1⟩

/-- The comparison of `SleFindConnDevByDevId`. -/
def matchesDevId (devID : List UInt8) (node : ConDeviceInfo) : Bool :=
  node.devId ≠ [] ∧ devID.length ≤ node.devId.length ∧ node.devId.take devID.length = devID

def sleFindConnDevByDevId (s : ConnDevs) (devID : List UInt8) : Option UInt16 :=
  if devID = [] then none else (s.list.find? (matchesDevId devID)).map ConDeviceInfo.connID

end ConnDevs

/-- What `SleLinkLayerReportSvcDataEnc` is called with. -/
structure Report where
  connID : UInt16
  service : List UInt8
  data : List UInt8
  deriving DecidableEq

def iotcOhSendCustomSecData (s : ConnDevs) (devId service data : List UInt8) : Option Report :=
  if data.length = 0 then none
  else (s.sleFindConnDevByDevId devId).map fun connID => ⟨connID, service, data⟩

inductive Event
  | add (connID : UInt16) (ok : Bool)
  | setDevId (connID : UInt16) (devId : List UInt8)
  | delete (connID : UInt16)
  | send (devId service data : List UInt8)

def step (s : ConnDevs) : Event → ConnDevs
  | .add connID ok => (s.sleAddConnDev connID ok).2
  | .setDevId connID devId => s.setDevId connID devId
  | .delete connID => s.sleDeleteConnDev connID
  | .send _ _ _ => s

def Listed (s : ConnDevs) (connID : UInt16) (devId : List UInt8) : Prop :=
  ∃ node ∈ s.list, node.connID = connID ∧ node.devId = devId ∧ devId ≠ []

/-- The search for a device id finds a connection exactly if it is listed with this device id. -/
def Exact (s : ConnDevs) (devId : List UInt8) : Prop :=
  ∀ connID, s.sleFindConnDevByDevId devId = some connID ↔ Listed s connID devId

/-- What is sent goes to a connection that is listed with the device id. -/
def Delivered (s : ConnDevs) (devId service data : List UInt8) : Prop :=
  ∀ report, iotcOhSendCustomSecData s devId service data = some report → Listed s report.connID devId

def Counted (s : ConnDevs) : Prop := s.num.toNat = s.list.length

def LookupStep (s : ConnDevs) (e : Event) : Prop :=
  Counted (step s e) ∧
    match e with
    | .send devId service data => Exact s devId ∧ Delivered s devId service data
    | _ => True

/-- A connection that is deleted is listed. When a device id is searched for, each connection with a longer device id
that begins with it stands behind one that has it, and at most one has it. -/
def Fits (s : ConnDevs) : Event → Prop
  | .delete connID => ∃ node ∈ s.list, node.connID = connID
  | .send devId _ _ =>
    devId ≠ [] →
      (∀ l₁ node l₂, s.list = l₁ ++ node :: l₂ → devId <+: node.devId →
        node.devId = devId ∨ ∃ other ∈ l₁, other.devId = devId) ∧
      ∀ node ∈ s.list, ∀ other ∈ s.list, node.devId = devId → other.devId = devId → node.connID = other.connID
  | _ => True

/-! ## The list and its number -/

structure Inv (s : ConnDevs) : Prop where
  nodup : (s.list.map ConDeviceInfo.connID).Nodup
  counted : Counted s

theorem Inv.init : Inv ConnDevs.init := ⟨List.nodup_nil, rfl⟩

theorem length_le_of_nodup {l : List UInt16} (h : l.Nodup) : l.length ≤ 2 ^ 16 := by
  have hmap : (l.map UInt16.toNat).Nodup := h.map fun _ _ => UInt16.toNat.inj
  have hsub : l.map UInt16.toNat ⊆ List.range (2 ^ 16) := by
    intro n hn
    obtain ⟨c, -, rfl⟩ := List.mem_map.mp hn
    exact List.mem_range.mpr c.toNat_lt
  have hle := (hmap.subperm hsub).length_le
  rwa [List.length_map, List.length_range] at hle

variable {s : ConnDevs}

theorem Inv.length_lt (h : Inv s) : s.list.length ≤ 2 ^ 16 := by
  have hle := length_le_of_nodup h.nodup
  rwa [List.length_map] at hle

theorem Inv.add (h : Inv s) (connID : UInt16) (ok : Bool) : Inv (s.sleAddConnDev connID ok).2 := by
  unfold ConnDevs.sleAddConnDev
  split_ifs with hexists hok
  · exact h
  · refine ⟨?_, ?_⟩
    · rw [List.map_append, List.nodup_append]
      refine ⟨h.nodup, List.nodup_singleton _, ?_⟩
      intro c hc d hd heq
      obtain ⟨node, hnode, rfl⟩ := List.mem_map.mp hc
      have hd : d = connID := by simpa using hd
      apply hexists
      exact List.any_eq_true.mpr ⟨node, hnode, by simp [heq, hd]⟩
    · have hlen := h.length_lt
      have hcount : s.num.toNat = s.list.length := h.counted
      show (s.num + 1).toNat = (s.list ++ [_]).length
      rw [UInt32.toNat_add, hcount, List.length_append, List.length_singleton]
      exact Nat.mod_eq_of_lt (by simp; omega)
  · exact h

theorem Inv.setDevId {s : ConnDevs} (h : Inv s) (connID : UInt16) (devId : List UInt8) : Inv (s.setDevId connID devId) := by
  unfold ConnDevs.setDevId
  split
  next => exact h
  next node hfind =>
    refine ⟨?_, ?_⟩
    · show ((replaceFirst _ _ s.list).map _).Nodup
      rw [map_replaceFirst hfind (by rfl)]
      exact h.nodup
    · show s.num.toNat = _
      rw [length_replaceFirst]
      exact h.counted

theorem nodup_delete (h : Inv s) (connID : UInt16) :
    ((s.sleDeleteConnDev connID).list.map ConDeviceInfo.connID).Nodup :=
  h.nodup.sublist (List.eraseP_sublist.map _)

theorem counted_delete_iff (h : Inv s) (connID : UInt16) :
    Counted (s.sleDeleteConnDev connID) ↔ ∃ node ∈ s.list, node.connID = connID := by
  have hcount : s.num.toNat = s.list.length := h.counted
  have hlen := h.length_lt
  by_cases hlisted : ∃ node ∈ s.list, node.connID = connID
  · refine iff_of_true ?_ hlisted
    obtain ⟨node, hnode, hid⟩ := hlisted
    have hpos : 0 < s.list.length := List.length_pos_of_mem hnode
    have hle : (1 : UInt32) ≤ s.num := by
      rw [UInt32.le_iff_toNat_le, hcount]
      exact hpos
    show (s.num - 1).toNat = (s.list.eraseP _).length
    rw [List.length_eraseP_of_mem hnode (decide_eq_true hid), UInt32.toNat_sub_of_le _ _ hle, hcount]
    rfl
  · refine iff_of_false ?_ hlisted
    have hsame : s.list.eraseP (fun node => node.connID = connID) = s.list := by
      apply List.eraseP_of_forall_not
      intro node hnode hid
      exact hlisted ⟨node, hnode, of_decide_eq_true hid⟩
    intro hcounted
    have hnum : (s.num - 1).toNat = s.list.length := by
      rw [← hsame]
      exact hcounted
    have heq : s.num - 1 = s.num := UInt32.toNat.inj (hnum.trans hcount.symm)
    have hone : (1 : UInt32) = 0 := by grind
    cases hone

/-! ## The search -/

theorem matchesDevId_iff {devID : List UInt8} (hne : devID ≠ []) (node : ConDeviceInfo) :
    ConnDevs.matchesDevId devID node = true ↔ devID <+: node.devId := by
  rw [ConnDevs.matchesDevId, decide_eq_true_eq, List.prefix_iff_eq_take]
  constructor
  · rintro ⟨-, -, htake⟩
    exact htake.symm
  · intro htake
    have hlen : devID.length ≤ node.devId.length := by
      rw [htake]
      exact List.length_take_le' _ _
    refine ⟨?_, hlen, htake.symm⟩
    rintro hnil
    rw [hnil] at hlen
    exact hne (List.length_eq_zero_iff.mp (Nat.le_zero.mp hlen))

theorem exact_iff (h : Inv s) (devId service data : List UInt8) :
    Exact s devId ↔ Fits s (.send devId service data) := by
  by_cases hne : devId = []
  · have hexact : Exact s devId := by
      intro connID
      rw [ConnDevs.sleFindConnDevByDevId, if_pos hne]
      exact ⟨nofun, fun ⟨_, _, _, _, h⟩ => absurd hne h⟩
    exact iff_of_true hexact fun h => absurd hne h
  · have hpq : ∀ node : ConDeviceInfo, decide (node.devId = devId) = true →
        ConnDevs.matchesDevId devId node = true := by
      intro node hnode
      rw [matchesDevId_iff hne, of_decide_eq_true hnode]
    have hlisted : ∀ connID, Listed s connID devId ↔
        ∃ node ∈ s.list, node.connID = connID ∧ decide (node.devId = devId) = true := by
      intro connID
      simp only [Listed, decide_eq_true_eq, and_iff_left hne]
    have hiff := find?_exact_iff h.nodup hpq
    simp only [matchesDevId_iff hne, decide_eq_true_eq] at hiff hlisted
    simp only [Exact, hlisted, Fits, ConnDevs.sleFindConnDevByDevId, ne_eq, hne, not_false_eq_true, forall_const]
    exact hiff

theorem Exact.delivered {devId : List UInt8} (h : Exact s devId) (service data : List UInt8) :
    Delivered s devId service data := by
  intro report hreport
  unfold iotcOhSendCustomSecData at hreport
  split_ifs at hreport
  obtain ⟨connID, hfind, rfl⟩ := Option.map_eq_some_iff.mp hreport
  exact (h connID).mp hfind

/-! ## Runs -/

theorem lookupStep_iff (h : Inv s) (e : Event) : LookupStep s e ↔ Fits s e := by
  cases e with
  | add connID ok => exact iff_of_true ⟨(h.add connID ok).counted, trivial⟩ trivial
  | setDevId connID devId => exact iff_of_true ⟨(h.setDevId connID devId).counted, trivial⟩ trivial
  | delete connID => exact (and_iff_left trivial).trans (counted_delete_iff h connID)
  | send devId service data =>
    rw [← exact_iff h devId service data]
    exact ⟨fun hstep => hstep.2.1, fun hexact => ⟨h.counted, hexact, hexact.delivered service data⟩⟩

theorem Inv.step {s : ConnDevs} (h : Inv s) {e : Event} (he : Fits s e) : Inv (step s e) := by
  have hcounted := ((lookupStep_iff h e).mpr he).1
  cases e with
  | add connID ok => exact h.add connID ok
  | setDevId connID devId => exact h.setDevId connID devId
  | delete connID => exact ⟨nodup_delete h connID, hcounted⟩
  | send devId service data => exact h

/-- In every run of calls the number of connections is right and the search finds exactly the connection of a device,
so that what is sent to it goes to no other one, exactly when only listed connections are deleted and no connection with
a longer device id stands before the one that is meant. -/
theorem lookup_exact_iff (es : List Event) :
    Along step LookupStep ConnDevs.init es ↔ Along step Fits ConnDevs.init es := by
  have hstep : ∀ s e, Fits s e → Inv s → Inv (step s e) := fun s e he h => h.step he
  have hiff : ∀ s e, Inv s → (LookupStep s e ↔ Fits s e) := fun s e h => lookupStep_iff h e
  exact along_step_iff hstep hiff Inv.init es

/-- Data for the device `"a"` goes to the device `"ab"`; and the deletion of a connection that is not there leaves the
number `2 ^ 32 - 1` for an empty list. -/
theorem lookup_not_exact :
    ¬ Along step LookupStep ConnDevs.init [.add 1 true, .setDevId 1 [97, 98], .send [97] [115] [1]] ∧
      ¬ Along step LookupStep ConnDevs.init [.delete 1] := by
  constructor
  · rintro ⟨-, -, ⟨-, -, hdelivered⟩, -⟩
    obtain ⟨node, hnode, -, hid, -⟩ := hdelivered ⟨1, [115], [1]⟩ (by decide)
    revert hid
    revert node
    decide
  · rintro ⟨⟨hcounted, -⟩, -⟩
    revert hcounted
    unfold Counted
    decide

end IotConnect.SleConn
