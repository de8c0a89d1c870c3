import IotConnect.Frameworks.FdSource

/-! # Which descriptor a dispatch selects

The loop of `FdSourceDispatch` raises the priority of a node before it compares the next ones with it. A
later node is preferred only if its priority is larger by two, so the first node of the largest priority is
selected for some lists only (`selectsFirst_iff`). A node that is passed over still comes within one of the
selected one, which bounds how often that can happen in a row (`bypassed_le`). -/
namespace IotConnect.Fd
open Trace
set_option autoImplicit false

/-! ## The selected node -/

/-- The first of the nodes whose priority is the largest has the address. -/
def FirstMax (l : List WatchNode) (addr : ℕ) : Prop :=
  ∃ pre node post, l = pre ++ node :: post ∧ node.addr = addr ∧ (∀ a ∈ pre, a.curPrio < node.curPrio) ∧
    ∀ b ∈ post, b.curPrio ≤ node.curPrio

def EventSourceFd.pendingNodes (s : EventSourceFd) : List WatchNode := s.watchList.filter WatchNode.pending

/-- The selected node is the first of those with the largest priority; its priority is reset, and that of the
other nodes with an event raised by one. -/
def SelectsFirst (s : EventSourceFd) : Prop :=
  ∀ tmpNode s', fdSourceSelect s = some (tmpNode, s') → FirstMax s.pendingNodes tmpNode.addr ∧
    s'.watchList.map (fun node => (node.addr, node.curPrio)) = s.watchList.map fun node =>
      (node.addr, if node.addr = tmpNode.addr then node.watch.prio.toNat
        else if node.pending then node.curPrio + 1 else node.curPrio)

/-- Among the priorities that exceed all before them, how many of the last ones exceed the one before by
exactly one; `top` is the largest so far. -/
def climbs : (top count : ℕ) → List ℕ → ℕ
  | _, count, [] => count
  | top, count, p :: ps =>
    if p = top + 1 then climbs p (count + 1) ps else if top < p then climbs p 0 ps else climbs top count ps

/-- The priorities of the pending nodes end with an even number of steps by one. -/
def EvenClimb (s : EventSourceFd) : Prop :=
  match s.pendingNodes.map WatchNode.curPrio with
  | [] => True
  | p :: ps => climbs p 0 ps % 2 = 0

/-- What the loop has selected from `seen`: the first of the largest priority `top`, or one less. -/
structure Chosen (seen : List WatchNode) (node : WatchNode) (top count : ℕ) : Prop where
  mem : node ∈ seen
  le : ∀ a ∈ seen, a.curPrio ≤ top
  attained : ∃ a ∈ seen, a.curPrio = top
  even : count % 2 = 0 → node.curPrio = top ∧
    ∃ pre post, seen = pre ++ node :: post ∧ ∀ a ∈ pre, a.curPrio < node.curPrio
  odd : count % 2 = 1 → node.curPrio + 1 = top

theorem Chosen.near {seen : List WatchNode} {node : WatchNode} {top count : ℕ} (h : Chosen seen node top count) :
    node.curPrio ≤ top ∧ top ≤ node.curPrio + 1 := by
  rcases Nat.mod_two_eq_zero_or_one count with h0 | h1
  · have := (h.even h0).1
    omega
  · have := h.odd h1
    omega

section Select
variable {seen rest : List WatchNode} {node next : WatchNode} {top count : ℕ}

/-- A node above all before it is the first of its priority. -/
theorem Chosen.above (h : Chosen seen node top count) (hnext : top < next.curPrio) :
    Chosen (seen ++ [next]) next next.curPrio 0 where
  mem := by simp
  le a ha := by
    rcases List.mem_append.mp ha with ha | ha
    · exact Nat.le_trans (h.le a ha) hnext.le
    · rw [List.mem_singleton.mp ha]
  attained := ⟨next, by simp, rfl⟩
  even _ := ⟨rfl, seen, [], rfl, fun a ha => Nat.lt_of_le_of_lt (h.le a ha) hnext⟩
  odd hodd := by cases hodd

theorem Chosen.below (h : Chosen seen node top count) (hnext : next.curPrio ≤ top) :
    Chosen (seen ++ [next]) node top count where
  mem := List.mem_append_left _ h.mem
  le a ha := by
    rcases List.mem_append.mp ha with ha | ha
    · exact h.le a ha
    · rw [List.mem_singleton.mp ha]
      exact hnext
  attained := by
    obtain ⟨a, ha, htop⟩ := h.attained
    exact ⟨a, List.mem_append_left _ ha, htop⟩
  even heven := by
    obtain ⟨htop, pre, post, rfl, hpre⟩ := h.even heven
    exact ⟨htop, pre, post ++ [next], by simp, hpre⟩
  odd := h.odd

theorem Chosen.step_by_one (h : Chosen seen node top count) (heven : count % 2 = 0) (hnext : next.curPrio = top + 1) :
    Chosen (seen ++ [next]) node next.curPrio (count + 1) where
  mem := List.mem_append_left _ h.mem
  le a ha := by
    rcases List.mem_append.mp ha with ha | ha
    · have := h.le a ha
      omega
    · rw [List.mem_singleton.mp ha]
  attained := ⟨next, by simp, rfl⟩
  even hodd := by omega
  odd _ := by
    rw [(h.even heven).1, hnext]

theorem aged_curPrio (h : node.pending = true) : node.aged.curPrio = node.curPrio + 1 := by
  rw [WatchNode.aged, if_pos h]

theorem selectLoop_chosen (rest : List WatchNode) (hrest : ∀ n ∈ rest, n.pending = true) (hnode : node.pending = true)
    (h : Chosen seen node top count) : ∃ node' top', selectLoop (some node.aged) rest = some node'.aged ∧
      node'.pending = true ∧ Chosen (seen ++ rest) node' top' (climbs top count (rest.map WatchNode.curPrio)) := by
  induction rest generalizing seen node top count with
  | nil => exact ⟨node, top, rfl, hnode, by simpa [climbs] using h⟩
  | cons next rest ih =>
    obtain ⟨hnext, hrest⟩ := List.forall_mem_cons.mp hrest
    have hnear := h.near
    have hassoc : seen ++ next :: rest = seen ++ [next] ++ rest := by simp
    rw [selectLoop, List.map_cons, climbs, hassoc]
    simp only [hnext, Option.mem_def, Option.some.injEq, forall_eq', true_and, aged_curPrio hnode]
    by_cases hone : next.curPrio = top + 1
    · rw [if_pos hone]
      rcases Nat.mod_two_eq_zero_or_one count with heven | hodd
      · have := (h.even heven).1
        rw [if_neg (by omega)]
        exact ih hrest hnode (h.step_by_one heven hone)
      · have := h.odd hodd
        rw [if_pos (by omega)]
        have habove : Chosen (seen ++ [next]) next next.curPrio 0 := h.above (by omega)
        refine ih hrest hnext ⟨habove.mem, habove.le, habove.attained, fun _ => habove.even rfl, fun h1 => ?_⟩
        omega
    · rw [if_neg hone]
      by_cases hlt : top < next.curPrio
      · rw [if_pos hlt, if_pos (by omega)]
        exact ih hrest hnext (h.above hlt)
      · rw [if_neg hlt, if_neg (by omega)]
        exact ih hrest hnode (h.below (by omega))

theorem selectLoop_filter (maxItem : Option WatchNode) (l : List WatchNode) :
    selectLoop maxItem l = selectLoop maxItem (l.filter WatchNode.pending) := by
  induction l generalizing maxItem with
  | nil => rfl
  | cons n rest ih =>
    cases hn : n.pending with
    | true =>
      rw [List.filter_cons_of_pos hn, selectLoop, selectLoop, ih, ih]
    | false =>
      rw [List.filter_cons_of_neg (by simp [hn]), selectLoop, if_neg (by simp [hn]), ih]

/-- A dispatch with pending nodes selects one of them, and how the others compare with it. -/
theorem selectLoop_cases (s : EventSourceFd) :
    (s.pendingNodes = [] ∧ selectLoop none s.watchList = none) ∨
    ∃ node top count, selectLoop none s.watchList = some node.aged ∧ node.pending = true ∧
      Chosen s.pendingNodes node top count ∧ (EvenClimb s ↔ count % 2 = 0) := by
  unfold EvenClimb
  rw [selectLoop_filter]
  have hpending : ∀ n ∈ s.pendingNodes, n.pending = true := fun n hn => (List.mem_filter.mp hn).2
  change _ ∨ ∃ node top count, selectLoop none s.pendingNodes = _ ∧ _
  cases hl : s.pendingNodes with
  | nil => exact .inl ⟨rfl, by rw [← EventSourceFd.pendingNodes, hl]; rfl⟩
  | cons first rest =>
    rw [hl] at hpending
    obtain ⟨hfirst, hrest⟩ := List.forall_mem_cons.mp hpending
    have hstart : Chosen [first] first first.curPrio 0 :=
      ⟨by simp, by simp, ⟨first, by simp, rfl⟩, fun _ => ⟨rfl, [], [], rfl, by simp⟩, fun h => by cases h⟩
    obtain ⟨node, top, hsel, hnode, hchosen⟩ := selectLoop_chosen rest hrest hfirst hstart
    refine .inr ⟨node, top, _, ?_, hnode, hchosen, Iff.rfl⟩
    rw [selectLoop, if_pos ⟨hfirst, by simp⟩]
    exact hsel

end Select

section Selected
variable {s s' : EventSourceFd} {tmpNode : WatchNode}

/-- What a selection is, in terms of the source before it. -/
theorem selected (h : Sound s) (hsel : fdSourceSelect s = some (tmpNode, s')) :
    ∃ pre node post top count, s.watchList = pre ++ node :: post ∧ tmpNode = node.aged ∧
      Chosen s.pendingNodes node top count ∧ (EvenClimb s ↔ count % 2 = 0) ∧
      s'.watchList = pre.map WatchNode.aged ++ { node.cleared with curPrio := node.watch.prio.toNat } ::
        post.map WatchNode.aged ∧ s'.next = s.next := by
  obtain ⟨pre, node, post, hl, -, rfl, rfl⟩ := select_cases h.addrs hsel
  obtain ⟨maxNode, hmax, hsel⟩ := Option.bind_eq_some_iff.mp hsel
  obtain ⟨r, -, hsel⟩ := Option.map_eq_some_iff.mp hsel
  rcases selectLoop_cases s with ⟨-, hnone⟩ | ⟨node', top, count, hloop, -, hchosen, heven⟩
  · rw [hnone] at hmax
    cases hmax
  rw [hloop] at hmax
  cases hmax
  have hsame : node' = node := by
    have hmem := (List.mem_filter.mp hchosen.mem).1
    refine List.inj_on_of_nodup_map h.addrs hmem (by rw [hl]; simp) ?_
    have haddr := congrArg (fun t => WatchNode.addr (Prod.fst t)) hsel
    dsimp only at haddr
    rwa [aged_addr, aged_addr] at haddr
  subst hsame
  exact ⟨pre, node', post, top, count, hl, rfl, hchosen, heven, rfl, rfl⟩

theorem addr_ne_of_split (h : Sound s) {pre post : List WatchNode} {node n : WatchNode}
    (hl : s.watchList = pre ++ node :: post) (hn : n ∈ pre ∨ n ∈ post) : n.addr ≠ node.addr := by
  have hnodup := h.addrs
  rw [hl, List.map_append, List.map_cons, List.nodup_append, List.nodup_cons] at hnodup
  intro heq
  rcases hn with hn | hn
  · exact hnodup.2.2 n.addr (List.mem_map_of_mem hn) node.addr List.mem_cons_self heq
  · exact hnodup.2.1.1 (heq ▸ List.mem_map_of_mem hn)

theorem findNode_of_mem {p : WatchNode → Bool} {l : List WatchNode} {n : WatchNode} (hn : n ∈ l) (hp : p n = true) :
    ∃ r, findNode p l = some r := by
  unfold findNode
  cases hdrop : l.dropWhile (fun node => !p node) with
  | nil =>
    have hall := List.dropWhile_eq_nil_iff.mp hdrop n hn
    simp [hp] at hall
  | cons node post => exact ⟨_, rfl⟩

theorem select_of_pending {n : WatchNode} (hn : n ∈ s.watchList) (hp : n.pending = true) :
    ∃ tmpNode s', fdSourceSelect s = some (tmpNode, s') := by
  rcases selectLoop_cases s with ⟨hnil, -⟩ | ⟨node, top, count, hloop, -, hchosen, -⟩
  · have hmem : n ∈ s.pendingNodes := List.mem_filter.mpr ⟨hn, hp⟩
    rw [hnil] at hmem
    cases hmem
  · obtain ⟨r, hr⟩ : ∃ r, findNode (fun m => m.addr == node.aged.addr) (s.watchList.map WatchNode.aged) = some r :=
      findNode_of_mem (List.mem_map_of_mem (List.mem_filter.mp hchosen.mem).1) (beq_self_eq_true _)
    unfold fdSourceSelect
    rw [hloop, Option.bind_some, hr]
    exact ⟨_, _, rfl⟩

theorem selectsFirst_iff (h : Sound s) : SelectsFirst s ↔ EvenClimb s := by
  constructor
  · intro hfirst
    rcases selectLoop_cases s with ⟨hnil, -⟩ | ⟨node, top, count, hloop, -, hchosen, heven⟩
    · rw [EvenClimb, hnil]
      trivial
    obtain ⟨hmem, hpending⟩ := List.mem_filter.mp hchosen.mem
    obtain ⟨tmpNode, s', hsel⟩ := select_of_pending hmem hpending
    obtain ⟨⟨before, first, after, hsplit, haddr, hbefore, hafter⟩, -⟩ := hfirst tmpNode s' hsel
    obtain ⟨-, node, -, top, count, -, rfl, hchosen, heven, -, -⟩ := selected h hsel
    refine heven.mpr (Nat.mod_two_ne_one.mp fun hodd => ?_)
    have hsame : first = node := by
      rw [aged_addr] at haddr
      exact List.inj_on_of_nodup_map h.addrs (List.mem_filter.mp (hsplit ▸ (by simp : first ∈ before ++ first :: after))).1
        (List.mem_filter.mp hchosen.mem).1 haddr
    subst hsame
    -- a node of a larger priority stands neither before nor behind the first of the largest
    obtain ⟨a, ha, htop⟩ := hchosen.attained
    have := hchosen.odd hodd
    rw [hsplit] at ha
    rcases List.mem_append.mp ha with ha | ha
    · have := hbefore a ha
      omega
    rcases List.mem_cons.mp ha with rfl | ha
    · omega
    · have := hafter a ha
      omega
  · intro hclimb tmpNode s' hsel
    obtain ⟨pre, node, post, top, count, hl, rfl, hchosen, heven, hl', -⟩ := selected h hsel
    rw [aged_addr]
    constructor
    · obtain ⟨htop, before, after, hsplit, hbefore⟩ := hchosen.even (heven.mp hclimb)
      refine ⟨before, node, after, hsplit, rfl, hbefore, fun b hb => ?_⟩
      rw [htop]
      exact hchosen.le b (by rw [hsplit]; simp [hb])
    · have hothers : ∀ n : WatchNode, n.addr ≠ node.addr → (n.aged.addr, n.aged.curPrio) = (n.addr, if n.addr = node.addr then
          n.watch.prio.toNat else if n.pending then n.curPrio + 1 else n.curPrio) := fun n hn => by
        rw [aged_addr, if_neg hn, WatchNode.aged]
        split <;> rfl
      rw [hl', hl]
      simp only [List.map_append, List.map_cons, List.map_map, if_true]
      refine congrArg₂ _ (List.map_congr_left fun n hn => hothers n (addr_ne_of_split h hl (.inl hn))) ?_
      exact congrArg _ (List.map_congr_left fun n hn => hothers n (addr_ne_of_split h hl (.inr hn)))

end Selected

/-! ## Waiting -/

/-- Every node of `s'` was a node of `s` with the same priority, or is new. -/
structure Descends (s s' : EventSourceFd) : Prop where
  next : s.next ≤ s'.next
  node : ∀ n' ∈ s'.watchList, (∃ n ∈ s.watchList, n'.addr = n.addr ∧ n'.watch = n.watch ∧ n'.curPrio = n.curPrio) ∨
    s.next ≤ n'.addr ∧ n'.curPrio = n'.watch.prio.toNat

section Descends
variable {s s' s'' : EventSourceFd}

theorem Descends.refl (s : EventSourceFd) : Descends s s := ⟨Nat.le_refl _, fun n hn => .inl ⟨n, hn, rfl, rfl, rfl⟩⟩

theorem Descends.trans (h : Descends s s') (h' : Descends s' s'') : Descends s s'' := by
  refine ⟨Nat.le_trans h.next h'.next, fun n'' hn'' => ?_⟩
  rcases h'.node n'' hn'' with ⟨n', hn', haddr, hwatch, hprio⟩ | ⟨hnew, hprio⟩
  · rw [haddr, hwatch, hprio]
    exact h.node n' hn'
  · exact .inr ⟨Nat.le_trans h.next hnew, hprio⟩

theorem descends_call (h : Sound s) (c : Call) : Descends s (call s c) := by
  obtain ⟨heq, -⟩ | ⟨watch, pre, post, -, hl, -, -, -, heq⟩ | ⟨pre, node, node', post, hl, haddr, hwatch, hprio, -, -, heq⟩ |
    ⟨pre, node, post, hl, -, heq⟩ := call_cases s c h.sorted
  · rw [heq]
    exact .refl s
  · rw [heq]
    refine ⟨Nat.le_succ _, fun n hn => ?_⟩
    rcases List.mem_cons.mp (List.perm_middle.mem_iff.mp hn) with rfl | hn
    · exact .inr ⟨Nat.le_refl _, rfl⟩
    · exact .inl ⟨n, hl ▸ hn, rfl, rfl, rfl⟩
  · rw [heq]
    refine ⟨Nat.le_refl _, fun n hn => .inl ?_⟩
    rcases List.mem_cons.mp (List.perm_middle.mem_iff.mp hn) with rfl | hn
    · exact ⟨node, by simp [hl], haddr, hwatch, hprio⟩
    · exact ⟨n, by rw [hl]; exact List.perm_middle.mem_iff.mpr (List.mem_cons_of_mem _ hn), rfl, rfl, rfl⟩
  · rw [heq]
    refine ⟨Nat.le_refl _, fun n hn => .inl ⟨n, ?_, rfl, rfl, rfl⟩⟩
    rw [hl]
    exact List.perm_middle.mem_iff.mpr (List.mem_cons_of_mem _ hn)

theorem descends_calls (h : Sound s) (cs : List Call) : Descends s (run call s cs) := by
  induction cs generalizing s with
  | nil => exact .refl s
  | cons c cs ih => exact (descends_call h c).trans (ih (h.call c))

theorem descends_poll (s : EventSourceFd) (poll : EventSourceFdPoll) : Descends s (fdSourcePoll s poll) := by
  rw [fdSourcePoll_eq]
  refine ⟨Nat.le_refl _, fun n hn => ?_⟩
  obtain ⟨m, hm, rfl⟩ := List.mem_map.mp hn
  exact .inl ⟨m, hm, rfl, rfl, rfl⟩

end Descends

def Event.isDispatch : Event → Bool
  | .dispatch _ => true
  | _ => false

/-- The node with address `addr` has an event and a base priority of `p` or more, and is not the one that is
selected; no base priority is above `largest`, and at most `size` descriptors are watched. -/
structure Bypassed (addr p largest size : ℕ) (s : EventSourceFd) (e : Event) : Prop where
  node : ∃ n ∈ s.watchList, n.addr = addr ∧ n.pending = true ∧ p ≤ n.watch.prio.toNat
  prio : ∀ n ∈ s.watchList, n.watch.prio.toNat ≤ largest
  size : s.watchList.length ≤ size
  other : e.isDispatch = true → ∀ tmpNode s', fdSourceSelect s = some (tmpNode, s') → tmpNode.addr ≠ addr

/-- The other nodes that could be selected before a node of priority `c`. -/
def rivals (addr c : ℕ) (s : EventSourceFd) : List ℕ :=
  (s.watchList.filter fun n => n.addr ≠ addr ∧ c ≤ n.curPrio + 1).map WatchNode.addr

/-- How often a node of priority `c` can still be passed over. -/
def patience (largest size addr c : ℕ) (s : EventSourceFd) : ℕ :=
  if largest + 2 ≤ c then (rivals addr c s).length else largest + 1 - c + (size - 1)

section Bypass
variable {s s' : EventSourceFd} {addr c largest size : ℕ}

theorem mem_rivals {a : ℕ} : a ∈ rivals addr c s ↔ ∃ n ∈ s.watchList, n.addr = a ∧ a ≠ addr ∧ c ≤ n.curPrio + 1 := by
  unfold rivals
  simp only [List.mem_map, List.mem_filter, decide_eq_true_eq]
  constructor
  · rintro ⟨n, ⟨hn, hne, hle⟩, rfl⟩
    exact ⟨n, hn, rfl, hne, hle⟩
  · rintro ⟨n, hn, rfl, hne, hle⟩
    exact ⟨n, ⟨hn, hne, hle⟩, rfl⟩

theorem rivals_nodup (h : Sound s) : (rivals addr c s).Nodup :=
  h.addrs.sublist (List.filter_sublist.map _)

theorem rivals_length_lt (h : Sound s) {x : WatchNode} (hx : x ∈ s.watchList) (c : ℕ) :
    (rivals x.addr c s).length < s.watchList.length := by
  have hnodup : (x.addr :: rivals x.addr c s).Nodup := by
    refine List.nodup_cons.mpr ⟨fun ha => ?_, rivals_nodup h⟩
    obtain ⟨-, -, -, hne, -⟩ := mem_rivals.mp ha
    exact hne rfl
  have hsubset : x.addr :: rivals x.addr c s ⊆ s.watchList.map WatchNode.addr := by
    intro a ha
    rcases List.mem_cons.mp ha with rfl | ha
    · exact List.mem_map_of_mem hx
    · obtain ⟨n, hn, rfl, -, -⟩ := mem_rivals.mp ha
      exact List.mem_map_of_mem hn
  have hle := (List.subperm_of_subset hnodup hsubset).length_le
  rwa [List.length_cons, List.length_map] at hle

/-- New nodes are no rivals of one that has waited long enough. -/
theorem patience_descends (size addr c : ℕ) (h' : Sound s') (hdesc : Descends s s')
    (hprio : ∀ n ∈ s'.watchList, n.watch.prio.toNat ≤ largest) :
    patience largest size addr c s' ≤ patience largest size addr c s := by
  unfold patience
  split
  · rename_i hc
    refine (List.subperm_of_subset (rivals_nodup h') fun a ha => ?_).length_le
    obtain ⟨n', hn', rfl, hne, hle⟩ := mem_rivals.mp ha
    rcases hdesc.node n' hn' with ⟨n, hn, haddr, -, hsame⟩ | ⟨-, hbase⟩
    · exact mem_rivals.mpr ⟨n, hn, haddr.symm, hne, by omega⟩
    · have := hprio n' hn'
      omega
  · exact Nat.le_refl _

/-- The node that is selected was a rival and is none after. -/
theorem patience_select {tmpNode x : WatchNode} (h : Sound s) (hsel : fdSourceSelect s = some (tmpNode, s'))
    (hx : x ∈ s.watchList) (hpending : x.pending = true) (hne : tmpNode.addr ≠ x.addr)
    (hprio : ∀ n ∈ s.watchList, n.watch.prio.toNat ≤ largest) (hsize : s.watchList.length ≤ size) :
    patience largest size x.addr (x.curPrio + 1) s' + 1 ≤ patience largest size x.addr x.curPrio s := by
  have hsound := h.select hsel
  obtain ⟨pre, node, post, top, count, hl, rfl, hchosen, -, hl', -⟩ := selected h hsel
  rw [aged_addr] at hne
  have hnode : node ∈ s.watchList := by
    rw [hl]
    simp
  have hnear := hchosen.near
  have htop := hchosen.le x (List.mem_filter.mpr ⟨hx, hpending⟩)
  have hbase := hprio node hnode
  by_cases hc : largest + 1 ≤ x.curPrio
  swap
  · unfold patience
    rw [if_neg (by omega), if_neg (by omega)]
    omega
  -- a rival after the selection is another node that was a rival before
  have hrival : ∀ a ∈ rivals x.addr (x.curPrio + 1) s', a ≠ node.addr ∧ a ∈ rivals x.addr x.curPrio s := by
    intro a ha
    obtain ⟨n', hn', rfl, hnx, hle⟩ := mem_rivals.mp ha
    rw [hl'] at hn'
    rcases List.mem_cons.mp (List.perm_middle.mem_iff.mp hn') with rfl | hn'
    · dsimp only at hle
      omega
    rw [← List.map_append] at hn'
    obtain ⟨n, hn, rfl⟩ := List.mem_map.mp hn'
    have hmem : n ∈ s.watchList := by
      rw [hl]
      exact List.perm_middle.mem_iff.mpr (List.mem_cons_of_mem _ hn)
    rw [aged_addr] at hnx ⊢
    refine ⟨addr_ne_of_split h hl (List.mem_append.mp hn), mem_rivals.mpr ⟨n, hmem, rfl, hnx, ?_⟩⟩
    have haged : n.aged.curPrio ≤ n.curPrio + 1 := by
      unfold WatchNode.aged
      split
      · exact Nat.le_refl _
      · exact Nat.le_succ _
    omega
  have hnodup : (node.addr :: rivals x.addr (x.curPrio + 1) s').Nodup :=
    List.nodup_cons.mpr ⟨fun ha => (hrival _ ha).1 rfl, rivals_nodup hsound⟩
  have hsubset : node.addr :: rivals x.addr (x.curPrio + 1) s' ⊆ rivals x.addr x.curPrio s := by
    intro a ha
    rcases List.mem_cons.mp ha with rfl | ha
    · exact mem_rivals.mpr ⟨node, hnode, rfl, hne, by omega⟩
    · exact (hrival a ha).2
  have hless := (List.subperm_of_subset hnodup hsubset).length_le
  rw [List.length_cons] at hless
  have hfew := rivals_length_lt h hx x.curPrio
  unfold patience
  rw [if_pos (by omega)]
  split <;> omega

theorem Descends.same {x n' : WatchNode} (hdesc : Descends s s') (h : Sound s) (hx : x ∈ s.watchList)
    (hn' : n' ∈ s'.watchList) (haddr : n'.addr = x.addr) : n'.curPrio = x.curPrio := by
  rcases hdesc.node n' hn' with ⟨n, hn, hsame, -, hprio⟩ | ⟨hnew, -⟩
  · rw [hprio, List.inj_on_of_nodup_map h.addrs hn hx (hsame.symm.trans haddr)]
  · have := h.fresh x hx
    omega

theorem dispatch_eq {tmpNode : WatchNode} (hsel : fdSourceSelect s = some (tmpNode, s')) (outcome : WatchEvent → Outcome) :
    step s (.dispatch outcome) = run call s' (script tmpNode outcome) := by
  show fdSourceDispatch s outcome = _
  rw [fdSourceDispatch, hsel]

theorem descends_step (h : Sound s) {e : Event} (he : e.isDispatch = false) : Descends s (step s e) := by
  cases e with
  | call c => exact descends_call h c
  | poll poll => exact descends_poll s poll
  | dispatch outcome => cases he

/-- A node that is passed over in a dispatch is one step older in what the callbacks make of the source. -/
theorem aged_mem_select {tmpNode x : WatchNode} (h : Sound s) (hsel : fdSourceSelect s = some (tmpNode, s'))
    (hx : x ∈ s.watchList) (hne : tmpNode.addr ≠ x.addr) : x.aged ∈ s'.watchList := by
  obtain ⟨pre, node, post, -, -, hl, rfl, -, -, hl', -⟩ := selected h hsel
  rw [aged_addr] at hne
  rw [hl] at hx
  rw [hl']
  rcases List.mem_cons.mp (List.perm_middle.mem_iff.mp hx) with rfl | hx
  · exact absurd rfl hne
  · refine List.perm_middle.mem_iff.mpr (List.mem_cons_of_mem _ ?_)
    rw [← List.map_append]
    exact List.mem_map_of_mem hx

theorem bypassed_le_patience {p : ℕ} (es : List Event) (h : Sound s) {x : WatchNode} (hx : x ∈ s.watchList)
    (halong : Along step (Bypassed x.addr p largest size) s es) :
    es.countP Event.isDispatch ≤ patience largest size x.addr x.curPrio s := by
  induction es generalizing s x with
  | nil => exact Nat.zero_le _
  | cons e es ih =>
    obtain ⟨hb, hrest⟩ := halong
    obtain ⟨n, hn, haddr, hpending, -⟩ := hb.node
    have hnx : n = x := List.inj_on_of_nodup_map h.addrs hn hx haddr
    subst hnx
    -- the node is still there, if the run goes on
    have hafter : ∀ c, (∀ n' ∈ (step s e).watchList, n'.addr = n.addr → n'.curPrio = c) →
        es.countP Event.isDispatch ≤ patience largest size n.addr c (step s e) ∧
          (es ≠ [] → ∀ n' ∈ (step s e).watchList, n'.watch.prio.toNat ≤ largest) := by
      intro c hc
      cases es with
      | nil => exact ⟨Nat.zero_le _, fun hne => absurd rfl hne⟩
      | cons e' es =>
        obtain ⟨n', hn', haddr', -, -⟩ := hrest.1.node
        have hle := ih (h.step e) hn' (haddr' ▸ hrest)
        rw [haddr', hc n' hn' haddr'] at hle
        exact ⟨hle, fun _ => hrest.1.prio⟩
    cases he : e.isDispatch with
    | false =>
      have hdesc := descends_step h he
      obtain ⟨hle, hprio⟩ := hafter n.curPrio fun n' hn' haddr' => hdesc.same h hn hn' haddr'
      rw [List.countP_cons_of_neg (by simp [he])]
      by_cases hnil : es = []
      · rw [hnil]
        exact Nat.zero_le _
      · exact Nat.le_trans hle (patience_descends _ _ _ (h.step e) hdesc (hprio hnil))
    | true =>
      obtain ⟨tmpNode, s', hsel⟩ := select_of_pending hn hpending
      have hne := hb.other he tmpNode s' hsel
      have hless := patience_select h hsel hn hpending hne hb.prio hb.size
      have hsound := h.select hsel
      have hdesc : Descends s' (step s e) := by
        cases e with
        | dispatch outcome =>
          rw [dispatch_eq hsel]
          exact descends_calls hsound _
        | call c => cases he
        | poll poll => cases he
      have hold := aged_mem_select h hsel hn hne
      obtain ⟨hle, hprio⟩ := hafter (n.curPrio + 1) fun n' hn' haddr' => by
        rw [hdesc.same hsound hold hn' (by rw [aged_addr]; exact haddr'), aged_curPrio hpending]
      rw [List.countP_cons_of_pos he]
      by_cases hnil : es = []
      · rw [hnil, List.countP_nil]
        omega
      · have := patience_descends size n.addr (n.curPrio + 1) (h.step e) hdesc (hprio hnil)
        omega

/-- No priority is below the one the node was watched with. -/
def Mature (s : EventSourceFd) : Prop := ∀ n ∈ s.watchList, n.watch.prio.toNat ≤ n.curPrio

theorem Mature.descends (hm : Mature s) (hdesc : Descends s s') : Mature s' := by
  intro n' hn'
  rcases hdesc.node n' hn' with ⟨n, hn, -, hwatch, hprio⟩ | ⟨-, hprio⟩
  · rw [hwatch, hprio]
    exact hm n hn
  · rw [hprio]

theorem Mature.select {tmpNode : WatchNode} (hm : Mature s) (h : Sound s)
    (hsel : fdSourceSelect s = some (tmpNode, s')) : Mature s' := by
  obtain ⟨pre, node, post, -, -, hl, -, -, -, hl', -⟩ := selected h hsel
  intro n' hn'
  rw [hl'] at hn'
  rcases List.mem_cons.mp (List.perm_middle.mem_iff.mp hn') with rfl | hn'
  · exact Nat.le_refl _
  rw [← List.map_append] at hn'
  obtain ⟨n, hn, rfl⟩ := List.mem_map.mp hn'
  have hle := hm n (by rw [hl]; exact List.perm_middle.mem_iff.mpr (List.mem_cons_of_mem _ hn))
  rw [aged_watch, WatchNode.aged]
  split
  · exact Nat.le_succ_of_le hle
  · exact hle

theorem Mature.step (hm : Mature s) (h : Sound s) (e : Event) : Mature (step s e) := by
  cases he : e.isDispatch with
  | false => exact hm.descends (descends_step h he)
  | true =>
    cases e with
    | call c => cases he
    | poll poll => cases he
    | dispatch outcome =>
      cases hsel : fdSourceSelect s with
      | none =>
        have heq : Fd.step s (.dispatch outcome) = s := by
          show fdSourceDispatch s outcome = s
          rw [fdSourceDispatch, hsel]
        rw [heq]
        exact hm
      | some r =>
        rw [dispatch_eq hsel]
        exact (hm.select h hsel).descends (descends_calls (h.select hsel) _)

theorem mature_run (es : List Event) : Mature (run step eventSourceFdNew es) := by
  have hstep : ∀ s e, True → Sound s ∧ Mature s → Sound (step s e) ∧ Mature (step s e) :=
    fun s e _ h => ⟨h.1.step e, h.2.step h.1 e⟩
  have hnew : Mature eventSourceFdNew := by simp [Mature, eventSourceFdNew]
  exact (run_invariant hstep (along_of_forall (fun _ _ _ => trivial) _) ⟨.new, hnew⟩).2

theorem bypassed_le {p : ℕ} (es : List Event) (h : Sound s) (hm : Mature s)
    (halong : Along step (Bypassed addr p largest size) s es) :
    es.countP Event.isDispatch ≤ (largest - p + 1) * size := by
  cases es with
  | nil => exact Nat.zero_le _
  | cons e es =>
    obtain ⟨x, hx, rfl, -, hp⟩ := halong.1.node
    have hle := bypassed_le_patience (e :: es) h hx halong
    have hbase := hm x hx
    have hmax := halong.1.prio x hx
    have hfew := rivals_length_lt h hx x.curPrio
    have hsize := halong.1.size
    obtain ⟨m, rfl⟩ : ∃ m, size = m + 1 := ⟨size - 1, by omega⟩
    have hmul : largest - p ≤ (largest - p) * (m + 1) := Nat.le_mul_of_pos_right _ (Nat.succ_pos m)
    rw [Nat.add_one_mul]
    unfold patience at hle
    split at hle <;> omega

end Bypass

/-- **In a run from the new source every dispatch selects the first pending node of the largest priority, resets
its priority and raises that of the others by one, exactly when at every dispatch the priorities of the pending
nodes end with an even number of steps by one. In every run a node is passed over at most as often as the span
of the priorities, plus one, times the number of nodes.** -/
theorem fdPriority_iff (es : List Event) :
    (Along step (fun s e => e.isDispatch = true → SelectsFirst s) eventSourceFdNew es ∧
      ∀ before after addr p largest size, es = before ++ after →
        Along step (Bypassed addr p largest size) (run step eventSourceFdNew before) after →
        after.countP Event.isDispatch ≤ (largest - p + 1) * size) ↔
      Along step (fun s e => e.isDispatch = true → EvenClimb s) eventSourceFdNew es := by
  refine (and_iff_left fun before after addr p largest size _ halong => ?_).trans ?_
  · exact bypassed_le after (Sound.new.run before) (mature_run before) halong
  · have hkeep : ∀ s e, (e.isDispatch = true → EvenClimb s) → Sound s → Sound (step s e) := fun _ e _ h => h.step e
    exact along_step_iff hkeep (fun s e h => imp_congr_right fun _ => selectsFirst_iff h) .new es

/-- Two descriptors of the lowest priority are ready, one is dispatched and is ready again. -/
def twoReaders : List Event :=
  [.call (.watch ⟨1, .min, true, false, false⟩ true), .call (.watch ⟨2, .min, true, false, false⟩ true),
    .poll fun set => (2, set), .dispatch fun _ => ⟨[], true⟩, .poll fun set => (1, set)]

/-- The second descriptor has waited, but the first is selected once more. -/
theorem later_descriptor_passed_over :
    (run step eventSourceFdNew twoReaders).watchList.map (fun node => (node.addr, node.pending, node.curPrio)) =
      [(0, true, 0), (1, true, 1)] ∧
      (fdSourceSelect (run step eventSourceFdNew twoReaders)).map (fun r => r.1.addr) = some 0 ∧
      ¬ SelectsFirst (run step eventSourceFdNew twoReaders) := by
  refine ⟨by decide, by decide, fun h => ?_⟩
  have hclimb := (selectsFirst_iff (Sound.new.run twoReaders)).mp h
  have hprios : (run step eventSourceFdNew twoReaders).pendingNodes.map WatchNode.curPrio = [0, 1] := by decide
  rw [EvenClimb, hprios] at hclimb
  exact absurd hclimb (by decide)

end IotConnect.Fd
