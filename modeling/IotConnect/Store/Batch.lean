import IotConnect.Store.RoundTrip

/-! # Operations on all registered items (`StoreOpAll`)

The inner loop of `StoreOpAll` ends at the first item that fails; the outer loop goes on to the next table and
its code takes the place of the last one. So the code returned is that of the last table, and it tells of every
failure exactly when no earlier table failed, or the last one did too (`LastDecides`). -/
namespace IotConnect.Store
set_option autoImplicit false

inductive StoreOp
  | read
  | write
  | del

section
variable {β : Type}

def storeOpByItem (env : StoreEnv) (backend : Backend β) (op : StoreOp) :
    SecurityStoreItem → β → IotcRet × SecurityStoreItem × β :=
  match op with
  | .read => storeItemRead env backend
  | .write => storeItemWrite env backend
  | .del => storeItemDelete backend

variable (f : SecurityStoreItem → β → IotcRet × SecurityStoreItem × β)

/-- The loop over the items of a table, with the code it starts from. -/
def opItems (ret : IotcRet) : List SecurityStoreItem → β → IotcRet × List SecurityStoreItem × β
  | [], kv => (ret, [], kv)
  | item :: items, kv =>
    let (ret, item, kv) := f item kv
    if ret ≠ .ok then (ret, item :: items, kv)
    else
      let (ret, items, kv) := opItems ret items kv
      (ret, item :: items, kv)

theorem opItems_length (ret : IotcRet) (items : List SecurityStoreItem) (kv : β) :
    (opItems f ret items kv).2.1.length = items.length := by
  induction items generalizing ret kv with
  | nil => rfl
  | cons item items ih =>
    rw [opItems]
    dsimp only
    split_ifs
    · rfl
    · exact congrArg (· + 1) (ih _ _)

def opNode (ret : IotcRet) (node : StoreItemsNode) (kv : β) : IotcRet × StoreItemsNode × β :=
  ((opItems f ret node.items kv).1,
    ⟨node.list, (opItems f ret node.items kv).2.1, fun hnil => node.num_pos (List.length_eq_zero_iff.mp
      ((opItems_length f ret node.items kv).symm.trans (congrArg List.length hnil)))⟩,
    (opItems f ret node.items kv).2.2)

def opNodes (ret : IotcRet) : List StoreItemsNode → β → IotcRet × List StoreItemsNode × β
  | [], kv => (ret, [], kv)
  | node :: nodes, kv =>
    let (ret, node, kv) := opNode f ret node kv
    let (ret, nodes, kv) := opNodes ret nodes kv
    (ret, node :: nodes, kv)

end

section
variable {β : Type} (env : StoreEnv) (backend : Backend β)

def storeOpAll (op : StoreOp) (s : UtilsStoreContext β) : IotcRet × UtilsStoreContext β :=
  let (ret, nodes, kv) := opNodes (storeOpByItem env backend op) .ok s.storeList s.kv
  (ret, ⟨nodes, kv⟩)

def onAll (op : StoreOp) (s : UtilsStoreContext β) : IotcRet × UtilsStoreContext β :=
  if env.lock = false then (.errTimeout, s) else storeOpAll env backend op s

def securityStorePullAll (s : UtilsStoreContext β) : IotcRet × UtilsStoreContext β := onAll env backend .read s

def securityStoreCommitAll (s : UtilsStoreContext β) : IotcRet × UtilsStoreContext β := onAll env backend .write s

def securityStoreDelAll (s : UtilsStoreContext β) : IotcRet × UtilsStoreContext β := onAll env backend .del s

end

/-! ## Success on every item -/

section
variable {β : Type} (f : SecurityStoreItem → β → IotcRet × SecurityStoreItem × β)

def ItemsOk : List SecurityStoreItem → β → Prop
  | [], _ => True
  | item :: items, kv => (f item kv).1 = .ok ∧ ItemsOk items (f item kv).2.2

def NodesOk : List StoreItemsNode → β → Prop
  | [], _ => True
  | node :: nodes, kv => ItemsOk f node.items kv ∧ NodesOk nodes (opNode f .ok node kv).2.2

theorem opItems_ok_iff (ret : IotcRet) {items : List SecurityStoreItem} (kv : β) (hne : items ≠ []) :
    (opItems f ret items kv).1 = .ok ↔ ItemsOk f items kv := by
  induction items generalizing ret kv with
  | nil => exact absurd rfl hne
  | cons item items ih =>
    rw [opItems, ItemsOk]
    dsimp only
    by_cases hret : (f item kv).1 = .ok
    · rw [if_neg (not_not.mpr hret)]
      dsimp only
      cases items with
      | nil => exact ⟨fun _ => ⟨hret, trivial⟩, fun _ => hret⟩
      | cons item' items =>
        rw [ih _ _ (List.cons_ne_nil _ _)]
        exact ⟨fun h => ⟨hret, h⟩, fun h => h.2⟩
    · rw [if_pos hret]
      exact ⟨fun h => absurd h hret, fun h => absurd h.1 hret⟩

theorem opItems_start (ret ret' : IotcRet) {items : List SecurityStoreItem} (kv : β) (hne : items ≠ []) :
    opItems f ret items kv = opItems f ret' items kv := by
  cases items with
  | nil => exact absurd rfl hne
  | cons item items => rfl

theorem opNode_start (ret ret' : IotcRet) (node : StoreItemsNode) (kv : β) :
    opNode f ret node kv = opNode f ret' node kv := by
  have heq := opItems_start f ret ret' kv node.num_pos
  simp only [opNode, heq]

theorem opNodes_kv (ret ret' : IotcRet) (nodes : List StoreItemsNode) (kv : β) :
    (opNodes f ret nodes kv).2.2 = (opNodes f ret' nodes kv).2.2 := by
  cases nodes with
  | nil => rfl
  | cons node nodes => rw [opNodes, opNodes, opNode_start f ret ret']

theorem opNodes_snoc_ok_iff (ret : IotcRet) (nodes : List StoreItemsNode) (last : StoreItemsNode) (kv : β) :
    (opNodes f ret (nodes ++ [last]) kv).1 = .ok ↔ ItemsOk f last.items (opNodes f .ok nodes kv).2.2 := by
  induction nodes generalizing ret kv with
  | nil => exact opItems_ok_iff f ret kv last.num_pos
  | cons node nodes ih =>
    rw [List.cons_append, opNodes, opNodes]
    dsimp only
    rw [ih, opNode_start f ret .ok, opNodes_kv f (opNode f .ok node kv).1 .ok]

theorem nodesOk_snoc_iff (nodes : List StoreItemsNode) (last : StoreItemsNode) (kv : β) :
    NodesOk f (nodes ++ [last]) kv ↔ NodesOk f nodes kv ∧ ItemsOk f last.items (opNodes f .ok nodes kv).2.2 := by
  induction nodes generalizing kv with
  | nil => exact and_comm
  | cons node nodes ih =>
    rw [List.cons_append, NodesOk, NodesOk, ih, and_assoc, opNodes]
    dsimp only
    rw [opNodes_kv f (opNode f .ok node kv).1 .ok]

def LastDecides (nodes : List StoreItemsNode) (kv : β) : Prop :=
  ∀ init last, nodes = init ++ [last] →
    NodesOk f init kv ∨ ¬ ItemsOk f last.items (opNodes f .ok init kv).2.2

theorem opNodes_reports_iff (nodes : List StoreItemsNode) (kv : β) :
    ((opNodes f .ok nodes kv).1 = .ok ↔ NodesOk f nodes kv) ↔ LastDecides f nodes kv := by
  unfold LastDecides
  rcases List.eq_nil_or_concat nodes with rfl | ⟨init, last, rfl⟩
  · refine ⟨fun _ init last h => ?_, fun _ => ⟨fun _ => trivial, fun _ => rfl⟩⟩
    exact absurd h.symm (List.concat_ne_nil last init)
  · rw [List.concat_eq_append, opNodes_snoc_ok_iff, nodesOk_snoc_iff]
    constructor
    · intro h init' last' heq
      obtain ⟨rfl, hlast⟩ := List.append_inj' heq rfl
      cases hlast
      by_cases hok : ItemsOk f last.items (opNodes f .ok init kv).2.2
      · exact .inl (h.mp hok).1
      · exact .inr hok
    · intro h
      refine ⟨fun hok => ⟨(h init last rfl).resolve_right (not_not.mpr hok), hok⟩, fun hok => hok.2⟩

end

/-! ## The calls -/

section
variable {β : Type} (env : StoreEnv) (backend : Backend β) (s : UtilsStoreContext β)

/-- The operation was carried out and succeeded on every item of every table. -/
def AllSucceed (op : StoreOp) : Prop :=
  env.lock = true ∧ NodesOk (storeOpByItem env backend op) s.storeList s.kv

def LastTableDecides (op : StoreOp) : Prop :=
  env.lock = true → LastDecides (storeOpByItem env backend op) s.storeList s.kv

theorem onAll_reports_iff (op : StoreOp) :
    ((onAll env backend op s).1 = .ok ↔ AllSucceed env backend s op) ↔ LastTableDecides env backend s op := by
  unfold onAll AllSucceed LastTableDecides
  cases hlock : env.lock with
  | false =>
    rw [if_pos rfl]
    exact ⟨fun _ h => (nomatch h), fun _ => ⟨fun h => (nomatch h), fun h => (nomatch h.1)⟩⟩
  | true =>
    rw [if_neg (by decide), ← opNodes_reports_iff]
    exact ⟨fun h _ => h.trans ⟨fun hok => hok.2, fun hok => ⟨rfl, hok⟩⟩,
      fun h => (h rfl).trans ⟨fun hok => ⟨rfl, hok⟩, fun hok => hok.2⟩⟩

/-- **The calls on everything report every failure exactly when no table but the last one failed, or the last one
did.** -/
theorem storeAll_reports_iff :
    (((securityStorePullAll env backend s).1 = .ok ↔ AllSucceed env backend s .read) ↔
      LastTableDecides env backend s .read) ∧
    (((securityStoreCommitAll env backend s).1 = .ok ↔ AllSucceed env backend s .write) ↔
      LastTableDecides env backend s .write) ∧
    (((securityStoreDelAll env backend s).1 = .ok ↔ AllSucceed env backend s .del) ↔
      LastTableDecides env backend s .del) :=
  ⟨onAll_reports_iff env backend s .read, onAll_reports_iff env backend s .write, onAll_reports_iff env backend s .del⟩

end

/-- A table whose item has no buffer, then a table whose item is in order. -/
def twoTables : UtilsStoreContext (String → List UInt8) :=
  ⟨[⟨0, [⟨1, some "a", .plain, none, 0, 4⟩], by simp⟩,
    ⟨1, [⟨2, some "b", .plain, some fun _ => 0, 0, 4⟩], by simp⟩], fun _ => []⟩

/-- The failure in the first table is not reported. -/
theorem storeAll_failureLost : ¬ ((securityStorePullAll openEnv memoryBackend twoTables).1 = .ok ↔
    AllSucceed openEnv memoryBackend twoTables .read) := by
  intro h
  have hall := (h.mp (by decide)).2.1.1
  exact absurd hall (by decide)

end IotConnect.Store
