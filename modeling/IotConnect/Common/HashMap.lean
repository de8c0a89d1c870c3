import IotConnect.Common.Errcode
import IotConnect.Foundations.Keyed
import Mathlib.Algebra.BigOperators.Fin

/-! # The hash map (`utils_hash_map.c`)

An array of buckets, each a linked list of nodes. A node is in the bucket of its key, no bucket has a key
twice, and `size` counts the nodes. The values are what the pointers of the code point to, so that freeing a
value is forgetting it. -/
namespace IotConnect
open Keyed
set_option autoImplicit false

variable {β : Type}

/-- One round of the loop of `Hash`. -/
def hashStep (h : UInt32) (c : UInt8) : UInt32 :=
  let h := (h <<< 4) + c.toUInt32
  let g := h &&& 0xF0000000
  if g = 0 then h else (h ^^^ (g >>> 24)) ^^^ g

def hash (key : List UInt8) : UInt32 := (key.drop (key.length - 4)).foldl hashStep 0

structure HashNode (β : Type) where
  key : List UInt8
  value : β

structure HashMap (β : Type) where
  bucketSize : ℕ
  hashArr : Fin bucketSize → List (HashNode β)
  size : ℕ
  bucketSize_pos : 0 < bucketSize
  placed : ∀ i, ∀ node ∈ hashArr i, (hash node.key).toNat % bucketSize = i.val
  distinct : ∀ i, ((hashArr i).map HashNode.key).Nodup
  size_eq : size = ∑ i, (hashArr i).length

namespace HashMap

def index (m : HashMap β) (key : List UInt8) : Fin m.bucketSize :=
  ⟨(hash key).toNat % m.bucketSize, Nat.mod_lt _ m.bucketSize_pos⟩

def bucket (m : HashMap β) (key : List UInt8) : List (HashNode β) := m.hashArr (m.index key)

/-- The nodes in the order of `UtilsHashMapIterate`. -/
def nodes (m : HashMap β) : List (HashNode β) := (List.finRange m.bucketSize).flatMap m.hashArr

variable {m : HashMap β} {node : HashNode β}

theorem mem_nodes : node ∈ m.nodes ↔ node ∈ m.bucket node.key := by
  simp only [nodes, List.mem_flatMap, List.mem_finRange, true_and]
  constructor
  · rintro ⟨i, hi⟩
    have hindex : m.index node.key = i := Fin.ext (m.placed i node hi)
    rwa [bucket, hindex]
  · intro h
    exact ⟨_, h⟩

section Update
variable (m : HashMap β) (i : Fin m.bucketSize) (l : List (HashNode β))

theorem placed_update (h : ∀ node ∈ l, (hash node.key).toNat % m.bucketSize = i.val) :
    ∀ j, ∀ node ∈ Function.update m.hashArr i l j, (hash node.key).toNat % m.bucketSize = j.val := by
  intro j node hnode
  by_cases hj : j = i
  · subst hj
    rw [Function.update_self] at hnode
    exact h node hnode
  · rw [Function.update_of_ne hj] at hnode
    exact m.placed j node hnode

theorem distinct_update (h : (l.map HashNode.key).Nodup) :
    ∀ j, ((Function.update m.hashArr i l j).map HashNode.key).Nodup := by
  intro j
  by_cases hj : j = i
  · subst hj
    rwa [Function.update_self]
  · rw [Function.update_of_ne hj]
    exact m.distinct j

theorem size_update : m.size + l.length =
    (∑ j, (Function.update m.hashArr i l j).length) + (m.hashArr i).length := by
  have hrest : ∑ j ∈ Finset.univ.erase i, (Function.update m.hashArr i l j).length =
      ∑ j ∈ Finset.univ.erase i, (m.hashArr j).length := by
    apply Finset.sum_congr rfl
    intro j hj
    rw [Function.update_of_ne (Finset.ne_of_mem_erase hj)]
  rw [m.size_eq, ← Finset.sum_erase_add Finset.univ _ (Finset.mem_univ i), ← hrest,
    ← Finset.sum_erase_add Finset.univ (fun j => (Function.update m.hashArr i l j).length) (Finset.mem_univ i),
    Function.update_self]
  omega

end Update

def setBucket (m : HashMap β) (key : List UInt8) (l : List (HashNode β)) (size : ℕ)
    (hplaced : ∀ node ∈ l, node.key = key ∨ node.key ∈ (m.bucket key).map HashNode.key)
    (hdistinct : (l.map HashNode.key).Nodup) (hsize : size + (m.bucket key).length = m.size + l.length) :
    HashMap β where
  bucketSize := m.bucketSize
  hashArr := Function.update m.hashArr (m.index key) l
  size := size
  bucketSize_pos := m.bucketSize_pos
  placed := by
    apply m.placed_update
    intro node hnode
    rcases hplaced node hnode with h | h
    · rw [h]
      rfl
    · obtain ⟨node', hnode', heq⟩ := List.mem_map.mp h
      rw [← heq]
      exact m.placed _ node' hnode'
  distinct := m.distinct_update _ _ hdistinct
  size_eq := by
    have hupdate := m.size_update (m.index key) l
    rw [bucket] at hsize
    omega

def mapValue (f : β → β) (m : HashMap β) : HashMap β where
  bucketSize := m.bucketSize
  hashArr := fun i => (m.hashArr i).map fun node => { node with value := f node.value }
  size := m.size
  bucketSize_pos := m.bucketSize_pos
  placed := by
    intro i node hnode
    obtain ⟨node', hnode', rfl⟩ := List.mem_map.mp hnode
    exact m.placed i node' hnode'
  distinct := by
    intro i
    rw [List.map_map]
    exact m.distinct i
  size_eq := by simp only [List.length_map, m.size_eq]

theorem nodes_mapValue (f : β → β) (m : HashMap β) :
    (m.mapValue f).nodes = m.nodes.map fun node => { node with value := f node.value } := by
  rw [nodes, nodes, List.map_flatMap]
  rfl

theorem mem_mapValue {f : β → β} (h : node ∈ (m.mapValue f).nodes) :
    ∃ node' ∈ m.nodes, { node' with value := f node'.value } = node :=
  List.mem_map.mp (nodes_mapValue f m ▸ h)

end HashMap

/-! ## The operations -/

def utilsHashMapCreate (n : ℕ) (h : 0 < n) : HashMap β where
  bucketSize := n
  hashArr := fun _ => []
  size := 0
  bucketSize_pos := h
  placed := nofun
  distinct := fun _ => List.nodup_nil
  size_eq := by simp

theorem replaceFirst_keys (key : List UInt8) (value : β) (l : List (HashNode β)) :
    (replaceFirst (fun node => node.key = key) ⟨key, value⟩ l).map HashNode.key = l.map HashNode.key := by
  induction l with
  | nil => rfl
  | cons node l ih =>
    rw [replaceFirst]
    split_ifs with h
    · rw [List.map_cons, List.map_cons, of_decide_eq_true h]
    · rw [List.map_cons, List.map_cons, ih]

def utilsHashMapInsert (malloc : Bool) (m : HashMap β) (key : List UInt8) (value : β) :
    Except IotcErr (HashMap β) :=
  if key = [] ∨ malloc = false then .error ⟨.error, IotcRet.error_ne_ok⟩
  else if h : key ∈ (m.bucket key).map HashNode.key then
    .ok (m.setBucket key (replaceFirst (fun node => node.key = key) ⟨key, value⟩ (m.bucket key)) m.size
      (fun node hnode => .inr (replaceFirst_keys key value _ ▸ List.mem_map_of_mem hnode))
      (by rw [replaceFirst_keys]; exact m.distinct _) (by rw [length_replaceFirst]))
  else
    .ok (m.setBucket key (m.bucket key ++ [⟨key, value⟩]) (m.size + 1)
      (by
        intro node hnode
        rcases List.mem_append.mp hnode with hnode | hnode
        · exact .inr (List.mem_map_of_mem hnode)
        · rw [List.mem_singleton.mp hnode]
          exact .inl rfl)
      (by
        rw [List.map_append, List.map_singleton]
        exact List.nodup_append.mpr ⟨m.distinct _, List.nodup_singleton key, by
          intro a ha b hb hab
          rw [hab, List.mem_singleton.mp hb] at ha
          exact h ha⟩)
      (by rw [List.length_append, List.length_singleton]; omega))

def utilsHashMapGetValue (m : HashMap β) (key : List UInt8) : Option β :=
  if key = [] then none
  else ((m.bucket key).find? fun node => node.key = key).map HashNode.value

variable {key : List UInt8}

theorem erase_key_length {l : List (HashNode β)} (h : key ∈ l.map HashNode.key) :
    (l.eraseP fun node => node.key = key).length + 1 = l.length := by
  obtain ⟨node, hnode, hkey⟩ := List.mem_map.mp h
  have hpos := List.length_pos_of_mem hnode
  rw [List.length_eraseP_of_mem hnode (decide_eq_true hkey)]
  omega

def utilsHashMapRemove (m : HashMap β) (key : List UInt8) : Except IotcErr (HashMap β) :=
  if key = [] then .error ⟨.error, IotcRet.error_ne_ok⟩
  else if h : key ∈ (m.bucket key).map HashNode.key then
    .ok (m.setBucket key ((m.bucket key).eraseP fun node => node.key = key) (m.size - 1)
      (fun node hnode => .inr (List.mem_map_of_mem (List.mem_of_mem_eraseP hnode)))
      ((m.distinct _).sublist ((List.eraseP_sublist).map HashNode.key))
      (by
        have herase := erase_key_length h
        have hupdate := m.size_update (m.index key) []
        simp only [HashMap.bucket, List.length_nil] at herase hupdate ⊢
        omega))
  else .error ⟨.error, IotcRet.error_ne_ok⟩

def utilsHashMapLength (m : HashMap β) : ℕ := m.size

/-! ## Their effect -/

variable {m : HashMap β}

theorem utilsHashMapGetValue_mem {value : β}
    (h : utilsHashMapGetValue m key = some value) : ⟨key, value⟩ ∈ m.nodes := by
  unfold utilsHashMapGetValue at h
  split_ifs at h
  obtain ⟨node, hfind, rfl⟩ := Option.map_eq_some_iff.mp h
  have hkey : node.key = key := by simpa using List.find?_some hfind
  subst hkey
  exact HashMap.mem_nodes.mpr (List.mem_of_find?_eq_some hfind)

theorem utilsHashMapGetValue_of_mem {node : HashNode β} (h : node ∈ m.nodes) (hkey : node.key ≠ []) :
    ∃ value, utilsHashMapGetValue m node.key = some value := by
  have hsome : ((m.bucket node.key).find? fun n => n.key = node.key).isSome = true :=
    List.find?_isSome.mpr ⟨node, HashMap.mem_nodes.mp h, by simp⟩
  obtain ⟨n, hn⟩ := Option.isSome_iff_exists.mp hsome
  rw [utilsHashMapGetValue, if_neg hkey, hn]
  exact ⟨n.value, rfl⟩

theorem utilsHashMapInsert_isOk (malloc : Bool) (m : HashMap β) (value : β) (h : key ≠ []) :
    (∃ m', utilsHashMapInsert malloc m key value = .ok m') ↔ malloc = true := by
  unfold utilsHashMapInsert
  cases malloc with
  | false => simp
  | true =>
    rw [if_neg (by simp [h])]
    split_ifs <;> simp

theorem utilsHashMapRemove_of_mem {node : HashNode β} (h : node ∈ m.nodes) (hkey : node.key ≠ []) :
    ∃ m', utilsHashMapRemove m node.key = .ok m' := by
  rw [utilsHashMapRemove, if_neg hkey, dif_pos (List.mem_map_of_mem (HashMap.mem_nodes.mp h))]
  exact ⟨_, rfl⟩

/-! ## The contents

Which nodes are in the map after an operation. -/

section Contents
variable {m m' : HashMap β} {key : List UInt8} {value : β}

theorem HashMap.nodes_length (m : HashMap β) : m.nodes.length = m.size := by
  rw [nodes, List.length_flatMap, m.size_eq, Fin.sum_univ_def]

variable {node : HashNode β}

theorem HashMap.eq_of_key {node' : HashNode β} (h : node ∈ m.nodes) (h' : node' ∈ m.nodes)
    (hkey : node.key = node'.key) : node = node' := by
  have hbucket := mem_nodes.mp h
  have hbucket' := mem_nodes.mp h'
  rw [← hkey] at hbucket'
  exact List.inj_on_of_nodup_map (m.distinct _) hbucket hbucket' hkey

theorem utilsHashMapGetValue_eq_some (hkey : key ≠ []) :
    utilsHashMapGetValue m key = some value ↔ ⟨key, value⟩ ∈ m.nodes := by
  constructor
  · exact utilsHashMapGetValue_mem
  · intro h
    obtain ⟨v, hv⟩ := utilsHashMapGetValue_of_mem h hkey
    have hnode := HashMap.eq_of_key (utilsHashMapGetValue_mem hv) h rfl
    rw [hv, Option.some.injEq]
    exact congrArg HashNode.value hnode

theorem HashMap.mem_setBucket_iff {l : List (HashNode β)} {size : ℕ} {h₁ h₂ h₃} :
    node ∈ (m.setBucket key l size h₁ h₂ h₃).nodes ↔
      (m.index node.key = m.index key ∧ node ∈ l) ∨ (m.index node.key ≠ m.index key ∧ node ∈ m.nodes) := by
  have hbucket : (m.setBucket key l size h₁ h₂ h₃).bucket node.key =
      Function.update m.hashArr (m.index key) l (m.index node.key) := rfl
  rw [mem_nodes, hbucket, mem_nodes]
  by_cases heq : m.index node.key = m.index key
  · rw [heq, Function.update_self]
    simp
  · rw [Function.update_of_ne heq]
    simp [heq, bucket]

theorem mem_remove_iff (h : utilsHashMapRemove m key = .ok m') :
    node ∈ m'.nodes ↔ node ∈ m.nodes ∧ node.key ≠ key := by
  unfold utilsHashMapRemove at h
  split_ifs at h
  cases h
  rw [HashMap.mem_setBucket_iff, mem_eraseP_key (l := m.bucket key) (m.distinct _), HashMap.mem_nodes]
  by_cases heq : m.index node.key = m.index key
  · simp [heq, HashMap.bucket]
  · have hne : node.key ≠ key := fun hkey => heq (by rw [hkey])
    simp [heq, hne]

theorem mem_utilsHashMapRemove (h : utilsHashMapRemove m key = .ok m') (hnode : node ∈ m'.nodes) :
    node ∈ m.nodes :=
  ((mem_remove_iff h).mp hnode).left

theorem key_ne_of_remove_error {err : IotcErr} (h : utilsHashMapRemove m key = .error err)
    (hnode : node ∈ m.nodes) (hne : node.key ≠ []) : node.key ≠ key := by
  rintro rfl
  obtain ⟨m', hm'⟩ := utilsHashMapRemove_of_mem hnode hne
  rw [h] at hm'
  cases hm'

variable {malloc : Bool}

theorem mem_insert_iff (h : utilsHashMapInsert malloc m key value = .ok m') :
    node ∈ m'.nodes ↔ node = ⟨key, value⟩ ∨ node ∈ m.nodes ∧ node.key ≠ key := by
  unfold utilsHashMapInsert at h
  split_ifs at h with hbad hmem
  · cases h
    rw [HashMap.mem_setBucket_iff, mem_replaceFirst_key (l := m.bucket key) (m.distinct _) hmem, HashMap.mem_nodes]
    by_cases heq : m.index node.key = m.index key
    · simp [heq, HashMap.bucket]
    · have hne : node.key ≠ key := fun hkey => heq (by rw [hkey])
      have hnew : node ≠ ⟨key, value⟩ := fun hnode => hne (by rw [hnode])
      simp [heq, hne, hnew]
  · cases h
    rw [HashMap.mem_setBucket_iff, List.mem_append, List.mem_singleton, HashMap.mem_nodes]
    by_cases heq : m.index node.key = m.index key
    · have hother : node ∈ m.bucket key → node.key ≠ key := by
        rintro hnode rfl
        exact hmem (List.mem_map_of_mem hnode)
      simp only [heq, HashMap.bucket, true_and, ne_eq, not_true_eq_false, false_and, or_false] at hother ⊢
      constructor
      · rintro (hnode | hnew)
        · exact .inr ⟨hnode, hother hnode⟩
        · exact .inl hnew
      · rintro (hnew | ⟨hnode, -⟩)
        · exact .inr hnew
        · exact .inl hnode
    · have hne : node.key ≠ key := fun hkey => heq (by rw [hkey])
      have hnew : node ≠ ⟨key, value⟩ := fun hnode => hne (by rw [hnode])
      simp [heq, hne, hnew]

theorem mem_utilsHashMapInsert (h : utilsHashMapInsert malloc m key value = .ok m')
    (hnode : node ∈ m'.nodes) : node = ⟨key, value⟩ ∨ node ∈ m.nodes :=
  ((mem_insert_iff h).mp hnode).imp_right And.left

end Contents

/-! ## Emptying -/

def utilsHashMapDelete (m : HashMap β) : HashMap β := utilsHashMapCreate m.bucketSize m.bucketSize_pos

theorem nodes_create (n : ℕ) (h : 0 < n) : (utilsHashMapCreate n h : HashMap β).nodes = [] := by
  simp [HashMap.nodes, utilsHashMapCreate]

theorem nodes_delete (m : HashMap β) : (utilsHashMapDelete m).nodes = [] := nodes_create _ _

/-! ## What is found after an operation -/

section Found
variable {m m' : HashMap β} {key k : List UInt8} {value : β}

theorem getValue_remove (h : utilsHashMapRemove m key = .ok m') (hk : k ≠ []) :
    utilsHashMapGetValue m' k = if k = key then none else utilsHashMapGetValue m k := by
  apply Option.ext
  intro v
  rw [utilsHashMapGetValue_eq_some hk, mem_remove_iff h]
  by_cases heq : k = key
  · simp [heq]
  · rw [if_neg heq, utilsHashMapGetValue_eq_some hk]
    exact and_iff_left heq

theorem getValue_insert {malloc : Bool} (h : utilsHashMapInsert malloc m key value = .ok m')
    (hk : k ≠ []) : utilsHashMapGetValue m' k = if k = key then some value else utilsHashMapGetValue m k := by
  apply Option.ext
  intro v
  rw [utilsHashMapGetValue_eq_some hk, mem_insert_iff h]
  by_cases heq : k = key
  · simp [heq, eq_comm]
  · rw [if_neg heq, utilsHashMapGetValue_eq_some hk]
    simp [heq]

theorem nodes_eq_nil_iff : m.nodes = [] ↔ m.size = 0 := by
  rw [← m.nodes_length, List.length_eq_zero_iff]

theorem getValue_of_size_eq_zero (h : m.size = 0) (k : List UInt8) : utilsHashMapGetValue m k = none := by
  rw [Option.eq_none_iff_forall_ne_some]
  intro v hv
  have hnode := utilsHashMapGetValue_mem hv
  rw [nodes_eq_nil_iff.mpr h] at hnode
  cases hnode

end Found

end IotConnect
