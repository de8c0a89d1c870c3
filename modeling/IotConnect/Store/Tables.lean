import IotConnect.Store.Item

/-! # The registered tables and the calls on them (`security_store.c`)

The store is the list of the registered tables and the state of the backend. A call by key works on the first
item of that key; a call on everything goes through the tables one after another. -/
namespace IotConnect.Store
open Memory
set_option autoImplicit false

/-- `StoreItemsNode`: a table with the address it was registered under. -/
structure StoreItemsNode where
  list : ℕ
  items : List SecurityStoreItem
  num_pos : items ≠ []

structure UtilsStoreContext (β : Type) where
  storeList : List StoreItemsNode
  kv : β

/-! ## By key -/

def hasKey (key : Int) (item : SecurityStoreItem) : Bool := item.keyInt = key

def getStoreItemByKey (key : Int) (storeList : List StoreItemsNode) : Option SecurityStoreItem :=
  (storeList.flatMap StoreItemsNode.items).find? (hasKey key)

theorem replaceFirst_ne_nil {α : Type} {p : α → Bool} {x : α} {l : List α} (h : l ≠ []) :
    Keyed.replaceFirst p x l ≠ [] := by
  intro hnil
  have hlen := congrArg List.length hnil
  rw [Keyed.length_replaceFirst] at hlen
  exact h (List.length_eq_zero_iff.mp hlen)

def StoreItemsNode.write (key : Int) (item : SecurityStoreItem) (node : StoreItemsNode) : StoreItemsNode :=
  ⟨node.list, Keyed.replaceFirst (hasKey key) item node.items, replaceFirst_ne_nil node.num_pos⟩

/-- Writing through the pointer that `GetStoreItemByKey` returned. -/
def writeItem (key : Int) (item : SecurityStoreItem) : List StoreItemsNode → List StoreItemsNode
  | [] => []
  | node :: nodes =>
    if node.items.any (hasKey key) then node.write key item :: nodes else node :: writeItem key item nodes

section
variable {β : Type}

/-- The frame of the calls on one item: the lock, the lookup, the operation. -/
def onItem (lock : Bool) (key : Int) (op : SecurityStoreItem → β → IotcRet × SecurityStoreItem × β) (s : UtilsStoreContext β) :
    IotcRet × UtilsStoreContext β :=
  if lock = false then (.errTimeout, s)
  else
    match getStoreItemByKey key s.storeList with
    | none => (.storeErrInvalidKey, s)
    | some item =>
      let (ret, item, kv) := op item s.kv
      (ret, ⟨writeItem key item s.storeList, kv⟩)

def setItem (value : List UInt8) (item : SecurityStoreItem) (kv : β) : IotcRet × SecurityStoreItem × β :=
  match item.buffer with
  | none => (.storeErrInvalidBufSize, item, kv)
  | some buffer =>
    if item.size < value.length then (.storeErrInvalidBufSize, item, kv)
    else
      match memcpyS buffer 0 item.size value with
      | none => (.errSecurecMemcpy, item, kv)
      | some buffer => (.ok, item.fill buffer value.length, kv)

def securityStoreSet (lock : Bool) (key : Int) (value : List UInt8) (s : UtilsStoreContext β) : IotcRet × UtilsStoreContext β :=
  if value = [] then (.errParamInvalid, s) else onItem lock key (setItem value) s

/-- `SecurityStoreGet` into a buffer of `cap` bytes: what is in it afterwards, up to the length set. -/
def securityStoreGet (lock : Bool) (key : Int) (cap : ℕ) (s : UtilsStoreContext β) : Except IotcRet (List UInt8) :=
  if cap = 0 then .error .errParamInvalid
  else if lock = false then .error .errTimeout
  else
    match getStoreItemByKey key s.storeList with
    | none => .error .storeErrInvalidKey
    | some item =>
      match item.buffer with
      | none => .error .storeErrInvalidBufSize
      | some buffer =>
        if cap < item.len then .error .storeErrInvalidBufSize
        else
          match memcpyS (fun _ => 0) 0 cap (load buffer 0 item.len) with
          | none => .error .errSecurecMemcpy
          | some value => .ok (load value 0 item.len)

variable (env : StoreEnv) (backend : Backend β)

def securityStorePull (key : Int) (s : UtilsStoreContext β) : IotcRet × UtilsStoreContext β :=
  onItem env.lock key (storeItemRead env backend) s

def securityStoreCommit (key : Int) (s : UtilsStoreContext β) : IotcRet × UtilsStoreContext β :=
  onItem env.lock key (storeItemWrite env backend) s

end

/-! ## Lookup after a write -/

theorem writeItem_flatMap (key : Int) (item : SecurityStoreItem) (nodes : List StoreItemsNode) :
    (writeItem key item nodes).flatMap StoreItemsNode.items =
      Keyed.replaceFirst (hasKey key) item (nodes.flatMap StoreItemsNode.items) := by
  induction nodes with
  | nil => rfl
  | cons node nodes ih =>
    rw [writeItem, List.flatMap_cons]
    by_cases hany : node.items.any (hasKey key) = true
    · rw [if_pos hany, List.flatMap_cons]
      exact (Keyed.replaceFirst_append_left _ (List.any_eq_true.mp hany)).symm
    · rw [if_neg hany, List.flatMap_cons, ih, Keyed.replaceFirst_append_right]
      exact fun a ha hkey => hany (List.any_eq_true.mpr ⟨a, ha, hkey⟩)

theorem getStoreItemByKey_writeItem {key : Int} (key' : Int) {old item : SecurityStoreItem} {nodes : List StoreItemsNode}
    (hold : getStoreItemByKey key nodes = some old) (hkey : item.keyInt = key) :
    getStoreItemByKey key' (writeItem key item nodes) =
      if key' = key then some item else getStoreItemByKey key' nodes := by
  unfold getStoreItemByKey at hold ⊢
  rw [writeItem_flatMap]
  by_cases heq : key' = key
  · rw [if_pos heq, heq]
    exact Keyed.find?_replaceFirst_self (by rw [hold]; rfl) (by simp [hasKey, hkey])
  · rw [if_neg heq]
    refine Keyed.find?_replaceFirst_of_not ?_ ?_
    · intro a ha
      simp only [hasKey, decide_eq_true_eq] at ha ⊢
      exact fun h => heq (h.symm.trans ha)
    · simp only [hasKey, decide_eq_true_eq, hkey]
      exact fun h => heq h.symm

end IotConnect.Store
