import IotConnect.Common.HashMap
import IotConnect.Foundations.Trace

/-! # The hash map as a finite map

The calls on a map, with the values that `freeValue` was called for and a log of what was inserted and removed. The map
gives for every key what the log gives, and every value that went in is in the map or was freed, once. -/
namespace IotConnect
open Trace
set_option autoImplicit false

variable {β : Type}

inductive MapEvent (β : Type)
  | inserted (key : List UInt8) (value : β)
  | removed (key : List UInt8)
  | deleted

structure OwnedMap (β : Type) where
  map : HashMap β
  freed : List β
  log : List (MapEvent β)

/-! ## The calls -/

def insertOwned (malloc : Bool) (s : OwnedMap β) (key : List UInt8) (value : β) : OwnedMap β :=
  match utilsHashMapInsert malloc s.map key value with
  | .error _ => s
  | .ok map => ⟨map, s.freed ++ (utilsHashMapGetValue s.map key).toList, s.log ++ [.inserted key value]⟩

def removeOwned (s : OwnedMap β) (key : List UInt8) : OwnedMap β :=
  match utilsHashMapRemove s.map key with
  | .error _ => { s with log := s.log ++ [.removed key] }
  | .ok map => ⟨map, s.freed ++ (utilsHashMapGetValue s.map key).toList, s.log ++ [.removed key]⟩

def deleteOwned (s : OwnedMap β) : OwnedMap β :=
  ⟨utilsHashMapDelete s.map, s.freed ++ s.map.nodes.map HashNode.value, s.log ++ [.deleted]⟩

/-- What a callback does: it may remove the entry it is called for, and continue or break. -/
structure NodeVisit where
  removes : Bool
  continues : Bool

/-- A callback may depend on the values it was called with before. -/
abbrev HashMapTraversal (β : Type) : Type := List β → β → NodeVisit

/-- An iteration that has called the callback for `seen`. -/
structure Iteration (β : Type) where
  owned : OwnedMap β
  seen : List (HashNode β)

def Iteration.visit (f : HashMapTraversal β) (it : Iteration β) (node : HashNode β) : Iteration β :=
  ⟨if (f (it.seen.map HashNode.value) node.value).removes then removeOwned it.owned node.key else it.owned,
    it.seen ++ [node]⟩

/-- The loop over a bucket. The pointer to the next node is read before the callback is called, so that it is still
good after the node was removed. -/
def iterateBucket (f : HashMapTraversal β) (it : Iteration β) : List (HashNode β) → Bool × Iteration β
  | [] => (true, it)
  | node :: next =>
    if (f (it.seen.map HashNode.value) node.value).continues then iterateBucket f (it.visit f node) next
    else (false, it.visit f node)

def HashMap.bucketAt (m : HashMap β) (i : ℕ) : List (HashNode β) :=
  if h : i < m.bucketSize then m.hashArr ⟨i, h⟩ else []

/-- The loop over the buckets, each read from the map as it is then. -/
def iterateBuckets (f : HashMapTraversal β) (it : Iteration β) : List ℕ → Bool × Iteration β
  | [] => (true, it)
  | i :: is =>
    let res := iterateBucket f it (it.owned.map.bucketAt i)
    if res.1 then iterateBuckets f res.2 is else res

def utilsHashMapIterate (f : HashMapTraversal β) (s : OwnedMap β) : Bool × Iteration β :=
  iterateBuckets f ⟨s, []⟩ (List.range s.map.bucketSize)

abbrev MapKey : Type := { key : List UInt8 // key ≠ [] }

inductive MapCall (β : Type)
  | insert (malloc : Bool) (key : MapKey) (value : β)
  | remove (key : MapKey)
  | delete
  | iterate (f : HashMapTraversal β)

def mapStep (s : OwnedMap β) : MapCall β → OwnedMap β
  | .insert malloc key value => insertOwned malloc s key.val value
  | .remove key => removeOwned s key.val
  | .delete => deleteOwned s
  | .iterate f => (utilsHashMapIterate f s).2.owned

/-! ## The finite map -/

def MapEvent.apply (k : List UInt8) (v : Option β) : MapEvent β → Option β
  | inserted key value => if k = key then some value else v
  | removed key => if k = key then none else v
  | deleted => none

/-- The value last inserted for `k` and not removed since. -/
def valueOf (log : List (MapEvent β)) (k : List UInt8) : Option β := log.foldl (MapEvent.apply k) none

def MapEvent.value : MapEvent β → Option β
  | inserted _ value => some value
  | removed _ => none
  | deleted => none

/-- The values that went in. -/
def valuesOf (log : List (MapEvent β)) : List β := log.filterMap MapEvent.value

structure MapRefines (s : OwnedMap β) : Prop where
  found : ∀ k, k ≠ [] → utilsHashMapGetValue s.map k = valueOf s.log k
  keys : ∀ node ∈ s.map.nodes, node.key ≠ []
  freed : (s.freed ++ s.map.nodes.map HashNode.value).Perm (valuesOf s.log)

/-! ## The nodes of a map -/

section Nodes
variable {m m' : HashMap β} {key : List UInt8} {value : β} {malloc : Bool}

theorem HashMap.nodes_nodup (m : HashMap β) : m.nodes.Nodup := by
  apply List.nodup_flatMap.mpr
  refine ⟨fun i _ => List.Nodup.of_map _ (m.distinct i), ?_⟩
  apply List.Nodup.pairwise_of_forall_ne (List.nodup_finRange _)
  intro i _ j _ hne node hi hj
  apply hne
  apply Fin.ext
  rw [← m.placed i node hi, m.placed j node hj]

theorem HashMap.keys_nodup (m : HashMap β) : (m.nodes.map HashNode.key).Nodup := by
  apply List.Nodup.map_on _ m.nodes_nodup
  intro node hnode node' hnode' heq
  exact m.eq_of_key hnode hnode' heq

/-- The nodes with another key. -/
def HashMap.others (m : HashMap β) (key : List UInt8) : List (HashNode β) := m.nodes.filter fun node => node.key ≠ key

theorem others_nodup : (m.others key).Nodup := m.nodes_nodup.filter _

theorem mem_others {node : HashNode β} : node ∈ m.others key ↔ node ∈ m.nodes ∧ node.key ≠ key := by
  simp [HashMap.others]

theorem values_split (hkey : key ≠ []) : (m.nodes.map HashNode.value).Perm
    ((utilsHashMapGetValue m key).toList ++ (m.others key).map HashNode.value) := by
  cases hget : utilsHashMapGetValue m key with
  | none =>
    have hothers : m.others key = m.nodes := by
      apply List.filter_eq_self.mpr
      intro node hnode
      apply decide_eq_true
      rintro rfl
      have := (utilsHashMapGetValue_eq_some hkey).mpr hnode
      rw [hget] at this
      cases this
    rw [hothers]
    exact List.Perm.refl _
  | some old =>
    have hmem := utilsHashMapGetValue_mem hget
    have hperm : m.nodes.Perm (⟨key, old⟩ :: m.others key) := by
      apply (List.perm_ext_iff_of_nodup m.nodes_nodup _).mpr
      · intro node
        rw [List.mem_cons, mem_others]
        by_cases heq : node.key = key
        · have huniq : node ∈ m.nodes ↔ node = ⟨key, old⟩ :=
            ⟨fun h => m.eq_of_key h hmem heq, fun h => h ▸ hmem⟩
          simp [heq, huniq]
        · have hne : node ≠ ⟨key, old⟩ := fun h => heq (congrArg HashNode.key h)
          simp [heq, hne]
      · exact List.nodup_cons.mpr ⟨fun h => (mem_others.mp h).2 rfl, others_nodup⟩
    exact hperm.map HashNode.value

theorem values_insert (h : utilsHashMapInsert malloc m key value = .ok m') :
    (m'.nodes.map HashNode.value).Perm (value :: (m.others key).map HashNode.value) := by
  have hperm : m'.nodes.Perm (⟨key, value⟩ :: m.others key) := by
    apply (List.perm_ext_iff_of_nodup m'.nodes_nodup _).mpr
    · intro node
      rw [mem_insert_iff h, List.mem_cons, mem_others]
    · exact List.nodup_cons.mpr ⟨fun h => (mem_others.mp h).2 rfl, others_nodup⟩
  exact hperm.map HashNode.value

theorem values_remove (h : utilsHashMapRemove m key = .ok m') :
    (m'.nodes.map HashNode.value).Perm ((m.others key).map HashNode.value) := by
  have hperm : m'.nodes.Perm (m.others key) := by
    apply (List.perm_ext_iff_of_nodup m'.nodes_nodup others_nodup).mpr
    intro node
    rw [mem_remove_iff h, mem_others]
  exact hperm.map HashNode.value

theorem HashMap.bucketAt_of_lt (m : HashMap β) {i : ℕ} (h : i < m.bucketSize) : m.bucketAt i = m.hashArr ⟨i, h⟩ :=
  dif_pos h

theorem HashMap.bucketAt_of_not_lt (m : HashMap β) {i : ℕ} (h : ¬ i < m.bucketSize) : m.bucketAt i = [] := dif_neg h

/-- Removing touches one bucket. -/
theorem bucketAt_remove (h : utilsHashMapRemove m key = .ok m') :
    m'.bucketSize = m.bucketSize ∧ ∀ i, i ≠ (hash key).toNat % m.bucketSize → m'.bucketAt i = m.bucketAt i := by
  unfold utilsHashMapRemove at h
  split_ifs at h
  cases h
  refine ⟨rfl, ?_⟩
  intro i hi
  by_cases hlt : i < m.bucketSize
  · have hne : (⟨i, hlt⟩ : Fin m.bucketSize) ≠ m.index key := fun heq => hi (congrArg Fin.val heq)
    rw [m.bucketAt_of_lt hlt, HashMap.bucketAt_of_lt (HashMap.setBucket _ _ _ _ _ _ _) hlt]
    exact Function.update_of_ne hne _ _
  · rw [m.bucketAt_of_not_lt hlt, HashMap.bucketAt_of_not_lt (HashMap.setBucket _ _ _ _ _ _ _) hlt]

theorem nodes_eq_range (m : HashMap β) : m.nodes = (List.range m.bucketSize).flatMap m.bucketAt := by
  rw [← List.map_coe_finRange_eq_range, List.flatMap_map]
  apply List.flatMap_congr
  intro i _
  exact (m.bucketAt_of_lt i.isLt).symm

theorem mem_bucketAt {i : ℕ} {node : HashNode β} (h : node ∈ m.bucketAt i) :
    (hash node.key).toNat % m.bucketSize = i := by
  by_cases hlt : i < m.bucketSize
  · rw [m.bucketAt_of_lt hlt] at h
    exact m.placed _ node h
  · rw [m.bucketAt_of_not_lt hlt] at h
    cases h

end Nodes

/-! ## One call -/

section Calls
variable {s : OwnedMap β}

theorem valueOf_snoc (log : List (MapEvent β)) (e : MapEvent β) (k : List UInt8) :
    valueOf (log ++ [e]) k = e.apply k (valueOf log k) := by
  rw [valueOf, List.foldl_append]
  rfl

theorem valuesOf_snoc (log : List (MapEvent β)) (e : MapEvent β) :
    valuesOf (log ++ [e]) = valuesOf log ++ e.value.toList := by
  rw [valuesOf, List.filterMap_append]
  cases e <;> rfl

theorem refines_create (n : ℕ) (hn : 0 < n) : MapRefines (⟨utilsHashMapCreate n hn, [], []⟩ : OwnedMap β) := by
  refine ⟨?_, ?_, ?_⟩
  · intro k _
    exact getValue_of_size_eq_zero rfl k
  · intro node hnode
    rw [nodes_create] at hnode
    cases hnode
  · rw [nodes_create]
    exact List.Perm.refl _

theorem MapRefines.insert (h : MapRefines s) (malloc : Bool) {key : List UInt8} (hkey : key ≠ []) (value : β) :
    MapRefines (insertOwned malloc s key value) := by
  unfold insertOwned
  cases hinsert : utilsHashMapInsert malloc s.map key value with
  | error err => exact h
  | ok m =>
    refine ⟨?_, ?_, ?_⟩
    · intro k hk
      rw [getValue_insert hinsert hk, h.found k hk, valueOf_snoc]
      rfl
    · intro node hnode
      rcases (mem_insert_iff hinsert).mp hnode with rfl | ⟨hold, _⟩
      · exact hkey
      · exact h.keys node hold
    · rw [valuesOf_snoc]
      have hsplit := (values_split (m := s.map) hkey).append_left s.freed
      have hnew := (values_insert hinsert).append_left (s.freed ++ (utilsHashMapGetValue s.map key).toList)
      refine hnew.trans (List.perm_middle.trans ?_)
      refine (List.perm_append_singleton _ _).symm.trans (List.Perm.append_right [value] ?_)
      rw [List.append_assoc]
      exact hsplit.symm.trans h.freed

theorem MapRefines.remove (h : MapRefines s) {key : List UInt8} (hkey : key ≠ []) : MapRefines (removeOwned s key) := by
  unfold removeOwned
  cases hremove : utilsHashMapRemove s.map key with
  | error err =>
    refine ⟨?_, h.keys, ?_⟩
    · intro k hk
      have habsent : k = key → utilsHashMapGetValue s.map k = none := by
        rintro rfl
        rw [Option.eq_none_iff_forall_ne_some]
        intro v hv
        exact key_ne_of_remove_error hremove (utilsHashMapGetValue_mem hv) hk rfl
      rw [valueOf_snoc, ← h.found k hk]
      show _ = if k = key then none else _
      split_ifs with heq
      · exact habsent heq
      · rfl
    · rw [valuesOf_snoc]
      exact h.freed.trans (List.Perm.of_eq (List.append_nil _).symm)
  | ok m =>
    refine ⟨?_, ?_, ?_⟩
    · intro k hk
      rw [getValue_remove hremove hk, h.found k hk, valueOf_snoc]
      rfl
    · intro node hnode
      exact h.keys node ((mem_remove_iff hremove).mp hnode).1
    · rw [valuesOf_snoc]
      have hsplit := (values_split (m := s.map) hkey).append_left s.freed
      have hnew := (values_remove hremove).append_left (s.freed ++ (utilsHashMapGetValue s.map key).toList)
      refine hnew.trans ?_
      rw [List.append_assoc]
      refine hsplit.symm.trans (h.freed.trans ?_)
      rw [show (MapEvent.removed key : MapEvent β).value.toList = [] from rfl, List.append_nil]

theorem MapRefines.delete (h : MapRefines s) : MapRefines (deleteOwned s) := by
  refine ⟨?_, ?_, ?_⟩
  · intro k _
    rw [deleteOwned, valueOf_snoc]
    exact getValue_of_size_eq_zero rfl k
  · intro node hnode
    rw [deleteOwned, nodes_delete] at hnode
    cases hnode
  · rw [deleteOwned, nodes_delete, valuesOf_snoc, List.map_nil, List.append_nil]
    exact h.freed.trans (List.Perm.of_eq (List.append_nil _).symm)

/-! ## Iterating -/

theorem removeOwned_map (s : OwnedMap β) (key : List UInt8) : (removeOwned s key).map.bucketSize = s.map.bucketSize ∧
    ∀ i, i ≠ (hash key).toNat % s.map.bucketSize → (removeOwned s key).map.bucketAt i = s.map.bucketAt i := by
  unfold removeOwned
  cases hremove : utilsHashMapRemove s.map key with
  | error err => exact ⟨rfl, fun _ _ => rfl⟩
  | ok m => exact bucketAt_remove hremove

variable (f : HashMapTraversal β)

theorem visit_map (it : Iteration β) (node : HashNode β) :
    (it.visit f node).owned.map.bucketSize = it.owned.map.bucketSize ∧
    ∀ i, i ≠ (hash node.key).toNat % it.owned.map.bucketSize →
      (it.visit f node).owned.map.bucketAt i = it.owned.map.bucketAt i := by
  unfold Iteration.visit
  split_ifs
  · exact removeOwned_map it.owned node.key
  · exact ⟨rfl, fun _ _ => rfl⟩

/-- A pass over nodes of one bucket leaves the other buckets as they are. -/
theorem iterateBucket_map (it : Iteration β) (l : List (HashNode β)) (i : ℕ)
    (hl : ∀ node ∈ l, (hash node.key).toNat % it.owned.map.bucketSize = i) :
    (iterateBucket f it l).2.owned.map.bucketSize = it.owned.map.bucketSize ∧
    ∀ j, j ≠ i → (iterateBucket f it l).2.owned.map.bucketAt j = it.owned.map.bucketAt j := by
  induction l generalizing it with
  | nil => exact ⟨rfl, fun _ _ => rfl⟩
  | cons node l ih =>
    obtain ⟨hsize, hbucket⟩ := visit_map f it node
    rw [hl node List.mem_cons_self] at hbucket
    rw [iterateBucket]
    split_ifs
    · obtain ⟨hsize', hbucket'⟩ := ih (it.visit f node) (by
        intro node' hnode'
        rw [hsize]
        exact hl node' (List.mem_cons_of_mem _ hnode'))
      exact ⟨hsize'.trans hsize, fun j hj => (hbucket' j hj).trans (hbucket j hj)⟩
    · exact ⟨hsize, hbucket⟩

theorem iterateBucket_append (it : Iteration β) (l l' : List (HashNode β)) :
    iterateBucket f it (l ++ l') =
      if (iterateBucket f it l).1 then iterateBucket f (iterateBucket f it l).2 l' else iterateBucket f it l := by
  induction l generalizing it with
  | nil => rfl
  | cons node l ih =>
    rw [List.cons_append, iterateBucket, iterateBucket]
    by_cases hcontinues : (f (it.seen.map HashNode.value) node.value).continues = true
    · rw [if_pos hcontinues, if_pos hcontinues]
      exact ih (it.visit f node)
    · rw [if_neg hcontinues, if_neg hcontinues, if_neg Bool.false_ne_true]

/-- The buckets are still as they were when the iteration gets to them. -/
theorem iterateBuckets_eq (it : Iteration β) (is : List ℕ) (hnodup : is.Nodup) :
    iterateBuckets f it is = iterateBucket f it (is.flatMap it.owned.map.bucketAt) := by
  induction is generalizing it with
  | nil => rfl
  | cons i is ih =>
    obtain ⟨hi, hnodup⟩ := List.nodup_cons.mp hnodup
    obtain ⟨_, hbucket⟩ := iterateBucket_map f it (it.owned.map.bucketAt i) i fun node => mem_bucketAt
    have hrest : is.flatMap (iterateBucket f it (it.owned.map.bucketAt i)).2.owned.map.bucketAt =
        is.flatMap it.owned.map.bucketAt := by
      apply List.flatMap_congr
      intro j hj
      exact hbucket j (ne_of_mem_of_not_mem hj hi)
    rw [iterateBuckets, List.flatMap_cons, iterateBucket_append, ih _ hnodup, hrest]

theorem utilsHashMapIterate_eq (s : OwnedMap β) : utilsHashMapIterate f s = iterateBucket f ⟨s, []⟩ s.map.nodes := by
  rw [utilsHashMapIterate, iterateBuckets_eq f _ _ List.nodup_range, nodes_eq_range]

/-- The callback was called for `seen`, the first ones of `nodes`, and it broke at the last of them where the iteration
was not `finished`. -/
structure VisitsUntilBreak (nodes seen : List (HashNode β)) (finished : Bool) : Prop where
  visited : seen <+: nodes
  all : finished = true → seen = nodes
  continued : ∀ before node after, seen = before ++ node :: after → after ≠ [] →
    (f (before.map HashNode.value) node.value).continues = true
  broke : finished = false → ∃ before node, seen = before ++ [node] ∧
    (f (before.map HashNode.value) node.value).continues = false

/-- The callback continued after each of `seen`. -/
def Continued (seen : List (HashNode β)) : Prop :=
  ∀ before node after, seen = before ++ node :: after → (f (before.map HashNode.value) node.value).continues = true

theorem continued_before {seen before after : List (HashNode β)} {last node : HashNode β} (h : Continued f seen)
    (heq : seen ++ [last] = before ++ node :: after) (hafter : after ≠ []) :
    (f (before.map HashNode.value) node.value).continues = true := by
  obtain ⟨init, x, rfl⟩ := (List.eq_nil_or_concat after).resolve_left hafter
  have hsplit : seen ++ [last] = (before ++ node :: init) ++ [x] := by simpa using heq
  exact h before node init (List.append_inj_left' hsplit rfl)

theorem Continued.snoc {seen : List (HashNode β)} {last : HashNode β} (h : Continued f seen)
    (hlast : (f (seen.map HashNode.value) last.value).continues = true) : Continued f (seen ++ [last]) := by
  intro before node after heq
  by_cases hafter : after = []
  · subst hafter
    obtain ⟨rfl, hnode⟩ := List.append_inj' heq rfl
    obtain rfl := List.singleton_inj.mp hnode
    exact hlast
  · exact continued_before f h heq hafter

theorem iterateBucket_visits (it : Iteration β) (l : List (HashNode β)) (h : Continued f it.seen) :
    VisitsUntilBreak f (it.seen ++ l) (iterateBucket f it l).2.seen (iterateBucket f it l).1 := by
  induction l generalizing it with
  | nil =>
    rw [List.append_nil]
    exact ⟨List.prefix_rfl, fun _ => rfl, fun before node after heq _ => h before node after heq,
      fun hfinished => absurd hfinished.symm Bool.false_ne_true⟩
  | cons node l ih =>
    have hnodes : it.seen ++ node :: l = (it.visit f node).seen ++ l := by
      rw [Iteration.visit, List.append_assoc]
      rfl
    rw [iterateBucket]
    by_cases hcontinues : (f (it.seen.map HashNode.value) node.value).continues = true
    · rw [if_pos hcontinues, hnodes]
      exact ih (it.visit f node) (h.snoc f hcontinues)
    · rw [if_neg hcontinues, hnodes]
      exact ⟨List.prefix_append _ _, fun hfinished => absurd hfinished Bool.false_ne_true,
        fun before node' after heq hafter => continued_before f h heq hafter,
        fun _ => ⟨it.seen, node, rfl, Bool.eq_false_iff.mpr hcontinues⟩⟩

theorem MapRefines.iterateBucket {it : Iteration β} {l : List (HashNode β)} (h : MapRefines it.owned)
    (hl : ∀ node ∈ l, node.key ≠ []) : MapRefines (iterateBucket f it l).2.owned := by
  induction l generalizing it with
  | nil => exact h
  | cons node l ih =>
    have hvisit : MapRefines (it.visit f node).owned := by
      unfold Iteration.visit
      dsimp only
      split_ifs
      · exact h.remove (hl node List.mem_cons_self)
      · exact h
    rw [IotConnect.iterateBucket]
    split_ifs
    · exact ih hvisit fun node' hnode' => hl node' (List.mem_cons_of_mem _ hnode')
    · exact hvisit

theorem MapRefines.step (h : MapRefines s) (call : MapCall β) : MapRefines (mapStep s call) := by
  cases call with
  | insert malloc key value => exact h.insert malloc key.property value
  | remove key => exact h.remove key.property
  | delete => exact h.delete
  | iterate f =>
    rw [mapStep, utilsHashMapIterate_eq]
    have howned : MapRefines (⟨s, []⟩ : Iteration β).owned := h
    exact MapRefines.iterateBucket f howned h.keys

theorem MapRefines.run (h : MapRefines s) (calls : List (MapCall β)) : MapRefines (run mapStep s calls) := by
  induction calls generalizing s with
  | nil => exact h
  | cons call calls ih => exact ih (h.step call)

/-- The length is the number of keys with a value. -/
theorem MapRefines.length (h : MapRefines s) : ∃ keys : Finset (List UInt8),
    (∀ k, k ∈ keys ↔ k ≠ [] ∧ (valueOf s.log k).isSome = true) ∧ keys.card = utilsHashMapLength s.map := by
  classical
  refine ⟨(s.map.nodes.map HashNode.key).toFinset, ?_, ?_⟩
  · intro k
    rw [List.mem_toFinset, List.mem_map]
    constructor
    · rintro ⟨node, hnode, rfl⟩
      have hne := h.keys node hnode
      obtain ⟨v, hv⟩ := utilsHashMapGetValue_of_mem hnode hne
      rw [h.found _ hne] at hv
      exact ⟨hne, Option.isSome_iff_exists.mpr ⟨v, hv⟩⟩
    · rintro ⟨hne, hsome⟩
      obtain ⟨v, hv⟩ := Option.isSome_iff_exists.mp hsome
      rw [← h.found _ hne] at hv
      exact ⟨⟨k, v⟩, utilsHashMapGetValue_mem hv, rfl⟩
  · rw [List.toFinset_card_of_nodup s.map.keys_nodup, List.length_map, HashMap.nodes_length]
    rfl

end Calls

/-! ## Every run of calls -/

theorem hashMap_refines (n : ℕ) (calls : List (MapCall β)) :
    let s := run mapStep (⟨utilsHashMapCreate (n + 1) n.succ_pos, [], []⟩ : OwnedMap β) calls
    (∀ k, k ≠ [] → utilsHashMapGetValue s.map k = valueOf s.log k) ∧
    (∃ keys : Finset (List UInt8), (∀ k, k ∈ keys ↔ k ≠ [] ∧ (valueOf s.log k).isSome = true) ∧
      keys.card = utilsHashMapLength s.map) ∧
    (s.freed ++ s.map.nodes.map HashNode.value).Perm (valuesOf s.log) ∧
    (s.map.nodes.map HashNode.key).Nodup ∧
    ∀ f, VisitsUntilBreak f s.map.nodes (utilsHashMapIterate f s).2.seen (utilsHashMapIterate f s).1 := by
  intro s
  have hrefines : MapRefines s := (refines_create (n + 1) n.succ_pos).run calls
  refine ⟨hrefines.found, hrefines.length, hrefines.freed, s.map.keys_nodup, ?_⟩
  intro f
  rw [utilsHashMapIterate_eq]
  have hempty : Continued f ([] : List (HashNode β)) := by
    intro before node after heq
    simp at heq
  exact iterateBucket_visits f ⟨s, []⟩ s.map.nodes hempty

end IotConnect
