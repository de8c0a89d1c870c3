import IotConnect.Frameworks.FdPriority

/-! # What becomes of a reported event

Every event a poll reports is entered in a ledger, and so is every callback that is invoked and every event
that a suspension or a removal discards. `FdEventProcess` asks for `recvEvent` before it invokes any of the
three callbacks, so an event of a descriptor without one is taken out of the list and never delivered
(`fdDelivery_iff`). -/
namespace IotConnect.Fd
open Trace
set_option autoImplicit false

/-! ## The ledger -/

structure Ledger where
  source : EventSourceFd
  reported : List (ℕ × WatchEvent)
  invoked : List (ℕ × WatchEvent)
  dropped : List (ℕ × WatchEvent)

def Ledger.new : Ledger := ⟨eventSourceFdNew, [], [], []⟩

def droppedBy (s : EventSourceFd) : List Call → List (ℕ × WatchEvent)
  | [] => []
  | c :: cs => dropped s c ++ droppedBy (call s c) cs

/-- The callbacks a dispatch invokes, and the events the calls they make discard. -/
def dispatchEntries (s : EventSourceFd) (outcome : WatchEvent → Outcome) :
    List (ℕ × WatchEvent) × List (ℕ × WatchEvent) :=
  match fdSourceSelect s with
  | none => ([], [])
  | some (tmpNode, s') => ((fdEventProcess tmpNode).map (tmpNode.addr, ·), droppedBy s' (script tmpNode outcome))

def enter (g : Ledger) (e : Event) : Ledger :=
  match e with
  | .call c => { g with source := step g.source e, dropped := g.dropped ++ dropped g.source c }
  | .poll poll => { g with source := step g.source e, reported := g.reported ++ reported g.source poll }
  | .dispatch outcome =>
    { g with
      source := step g.source e
      invoked := g.invoked ++ (dispatchEntries g.source outcome).1
      dropped := g.dropped ++ (dispatchEntries g.source outcome).2 }

/-- Every reported event has led to one invocation, was discarded or is pending, and there is nothing else. -/
def Balanced (g : Ledger) : Prop :=
  g.reported.Perm (g.invoked ++ (g.dropped ++ pendings g.source.watchList))

theorem enter_source (g : Ledger) (e : Event) : (enter g e).source = step g.source e := by
  cases e <;> rfl

theorem run_enter_source (g : Ledger) (es : List Event) : (run enter g es).source = run step g.source es := by
  induction es generalizing g with
  | nil => rfl
  | cons e es ih => rw [run_cons, run_cons, ih, enter_source]

/-! ## One entry -/

section Entries
variable {s s' : EventSourceFd}

theorem pendings_call (h : Sound s) (c : Call) :
    (pendings s.watchList).Perm (dropped s c ++ pendings (call s c).watchList) := by
  obtain ⟨heq, hnone⟩ | ⟨watch, pre, post, -, hl, -, -, hnone, heq⟩ | ⟨pre, node, node', post, hl, -, -, -, -, hpend, heq⟩ |
    ⟨pre, node, post, hl, hdrop, heq⟩ := call_cases s c h.sorted
  · rw [heq, hnone, List.nil_append]
  · rw [heq, hnone, hl]
    simp [WatchNode.pendings]
  · rw [heq, hl]
    simp only [pendings_append, pendings_cons, hpend, List.append_assoc]
    exact List.perm_append_comm_assoc _ _ _
  · rw [heq, hl, hdrop]
    simp only [pendings_append, pendings_cons]
    exact List.perm_append_comm_assoc _ _ _

theorem pendings_calls (h : Sound s) (cs : List Call) :
    (pendings s.watchList).Perm (droppedBy s cs ++ pendings (run call s cs).watchList) := by
  induction cs generalizing s with
  | nil => exact .refl _
  | cons c cs ih =>
    rw [droppedBy, run_cons, List.append_assoc]
    exact (pendings_call h c).trans ((ih (h.call c)).append_left _)

theorem fdEventProcess_eq (node : WatchNode) : (fdEventProcess node).map (node.addr, ·) =
    if node.watch.recvEvent then node.pendings else [] := by
  unfold fdEventProcess WatchNode.pendings
  cases node.watch.recvEvent <;> simp

/-- What a dispatch takes out of the list is what it invokes, if there is a callback for reading. -/
theorem pendings_select {tmpNode : WatchNode} (h : Sound s) (hsel : fdSourceSelect s = some (tmpNode, s')) :
    tmpNode.pendings ≠ [] ∧ (pendings s.watchList).Perm (tmpNode.pendings ++ pendings s'.watchList) := by
  obtain ⟨pre, node, post, hl, hpending, rfl, rfl⟩ := select_cases h.addrs hsel
  rw [aged_pendings]
  constructor
  · intro hnil
    obtain ⟨event, hevent⟩ := (pending_iff node).mp hpending
    rw [(pendings_eq_nil_iff node).mp hnil event] at hevent
    cases hevent
  · have hnone : ({ node.cleared with curPrio := node.watch.prio.toNat } : WatchNode).pendings = [] :=
      pendings_cleared { node with curPrio := node.watch.prio.toNat }
    rw [hl]
    simp only [pendings_append, pendings_cons, map_aged_pendings, hnone, List.nil_append]
    exact List.perm_append_comm_assoc _ _ _

variable {g : Ledger}

theorem Balanced.call (h : Sound g.source) (hg : Balanced g) (c : Call) : Balanced (enter g (.call c)) := by
  refine hg.trans (List.Perm.append_left _ ?_)
  refine ((pendings_call h c).append_left _).trans ?_
  rw [← List.append_assoc]
  rfl

theorem Balanced.poll (hg : Balanced g) (poll : EventSourceFdPoll) : Balanced (enter g (.poll poll)) := by
  show (g.reported ++ Fd.reported g.source poll).Perm
    (g.invoked ++ (g.dropped ++ pendings (fdSourcePoll g.source poll).watchList))
  rw [fdSourcePoll_eq]
  refine (List.Perm.append_right _ hg).trans ?_
  simp only [List.append_assoc]
  exact ((map_latched_pendings _ _).symm.append_left _).append_left _

/-- A dispatch keeps the books unless the node it selects has no callback for reading. -/
theorem balanced_dispatch_iff (h : Sound g.source) (hg : Balanced g) (outcome : WatchEvent → Outcome) :
    Balanced (enter g (.dispatch outcome)) ↔
      ∀ tmpNode s', fdSourceSelect g.source = some (tmpNode, s') → tmpNode.watch.recvEvent = true := by
  cases hsel : fdSourceSelect g.source with
  | none =>
    have hsame : enter g (.dispatch outcome) = g := by
      have hstep : step g.source (.dispatch outcome) = g.source := by
        show fdSourceDispatch g.source outcome = _
        rw [fdSourceDispatch, hsel]
      simp [enter, dispatchEntries, hsel, hstep]
    rw [hsame]
    exact iff_of_true hg fun _ _ hr => by cases hr
  | some r =>
    obtain ⟨tmpNode, s'⟩ := r
    obtain ⟨hne, hselect⟩ := pendings_select h hsel
    have hcalls := pendings_calls (h.select hsel) (script tmpNode outcome)
    have hentries : dispatchEntries g.source outcome =
        ((fdEventProcess tmpNode).map (tmpNode.addr, ·), droppedBy s' (script tmpNode outcome)) := by
      rw [dispatchEntries, hsel]
    have hsource := dispatch_eq hsel outcome
    unfold Balanced enter
    dsimp only
    rw [hentries, hsource, fdEventProcess_eq]
    -- everything that was pending is now taken out, discarded or pending
    have hall : g.reported.Perm (g.invoked ++ (g.dropped ++ (tmpNode.pendings ++
        (droppedBy s' (script tmpNode outcome) ++ pendings (run call s' (script tmpNode outcome)).watchList)))) :=
      hg.trans (((hselect.trans (hcalls.append_left _)).append_left _).append_left _)
    constructor
    · intro hbal tmp s1 hr
      cases hr
      by_contra hno
      rw [if_neg hno] at hbal
      have hlen := hall.length_eq.symm.trans hbal.length_eq
      have hpos := List.length_pos_iff.mpr hne
      simp only [List.length_append, List.length_nil] at hlen
      omega
    · intro hread
      rw [if_pos (hread _ _ rfl)]
      refine hall.trans ?_
      simp only [List.append_assoc]
      exact List.Perm.append_left _ (List.perm_append_comm_assoc _ _ _)

end Entries

/-! ## Whole runs -/

/-- A dispatch whose callbacks call nothing and keep their descriptor. -/
def idleRound : Event := .dispatch fun _ => ⟨[], true⟩

/-- Every descriptor the poll reports an event of has a callback for reading. -/
def ReportsHeard (s : EventSourceFd) : Event → Prop
  | .poll poll => ∀ n ∈ s.watchList, n.reports (pollSet s poll) ≠ [] → n.watch.recvEvent = true
  | _ => True

/-- The node with address `addr` has an event and is not the one that is selected. -/
structure Unselected (addr : ℕ) (s : EventSourceFd) (e : Event) : Prop where
  node : ∃ n ∈ s.watchList, n.addr = addr ∧ n.pending = true
  other : e.isDispatch = true → ∀ tmpNode s', fdSourceSelect s = some (tmpNode, s') → tmpNode.addr ≠ addr

/-- Every pending event has a callback for reading. -/
def Heard (s : EventSourceFd) : Prop := ∀ n ∈ s.watchList, n.pendings ≠ [] → n.watch.recvEvent = true

section Runs
variable {s s' : EventSourceFd} {g : Ledger}

theorem pendings_ne_nil_iff (node : WatchNode) : node.pendings ≠ [] ↔ node.pending = true := by
  rw [ne_eq, pendings_eq_nil_iff, pending_iff, not_forall]
  simp only [Bool.not_eq_false]

theorem Heard.call (h : Sound s) (hs : Heard s) (c : Call) : Heard (call s c) := by
  obtain ⟨heq, -⟩ | ⟨watch, pre, post, -, hl, -, -, -, heq⟩ | ⟨pre, node, node', post, hl, -, hwatch, -, -, hpend, heq⟩ |
    ⟨pre, node, post, hl, -, heq⟩ := call_cases s c h.sorted
  · rw [heq]
    exact hs
  · rw [heq]
    intro n hn hne
    rcases List.mem_cons.mp (List.perm_middle.mem_iff.mp hn) with rfl | hn
    · simp [WatchNode.pendings] at hne
    · exact hs n (hl ▸ hn) hne
  · rw [heq]
    intro n hn hne
    rcases List.mem_cons.mp (List.perm_middle.mem_iff.mp hn) with rfl | hn
    · rw [hwatch]
      exact hs node (by simp [hl]) (by rw [hpend]; simp [hne])
    · exact hs n (by rw [hl]; exact List.perm_middle.mem_iff.mpr (List.mem_cons_of_mem _ hn)) hne
  · rw [heq]
    intro n hn hne
    exact hs n (by rw [hl]; exact List.perm_middle.mem_iff.mpr (List.mem_cons_of_mem _ hn)) hne

theorem Heard.poll (hs : Heard s) {poll : EventSourceFdPoll} (hp : ReportsHeard s (.poll poll)) :
    Heard (fdSourcePoll s poll) := by
  rw [fdSourcePoll_eq]
  intro n' hn' hne
  obtain ⟨n, hn, rfl⟩ := List.mem_map.mp hn'
  by_cases hold : n.pendings = []
  · refine hp n hn fun hnone => hne ?_
    have hperm := latched_pendings (pollSet s poll) n
    rw [hold, hnone] at hperm
    exact hperm.eq_nil
  · exact hs n hn hold

theorem Heard.select {tmpNode : WatchNode} (h : Sound s) (hs : Heard s)
    (hsel : fdSourceSelect s = some (tmpNode, s')) : tmpNode.watch.recvEvent = true ∧ Heard s' := by
  obtain ⟨pre, node, post, hl, hpending, rfl, rfl⟩ := select_cases h.addrs hsel
  rw [aged_watch]
  refine ⟨hs node (by simp [hl]) ((pendings_ne_nil_iff node).mpr hpending), fun n' hn' hne => ?_⟩
  rcases List.mem_cons.mp (List.perm_middle.mem_iff.mp hn') with rfl | hn'
  · exact absurd (pendings_cleared { node with curPrio := node.watch.prio.toNat }) hne
  · rw [← List.map_append] at hn'
    obtain ⟨n, hn, rfl⟩ := List.mem_map.mp hn'
    rw [aged_pendings] at hne
    rw [aged_watch]
    exact hs n (by rw [hl]; exact List.perm_middle.mem_iff.mpr (List.mem_cons_of_mem _ hn)) hne

theorem Heard.calls (h : Sound s) (hs : Heard s) (cs : List Call) : Heard (Trace.run Fd.call s cs) := by
  induction cs generalizing s with
  | nil => exact hs
  | cons c cs ih => exact ih (h.call c) (hs.call h c)

/-- The books are kept by every step that reports no event without a callback for reading. -/
theorem heard_step (e : Event) (hp : ReportsHeard g.source e)
    (h : Sound g.source ∧ Heard g.source ∧ Balanced g) :
    Sound (enter g e).source ∧ Heard (enter g e).source ∧ Balanced (enter g e) := by
  obtain ⟨hsound, hheard, hbal⟩ := h
  rw [enter_source]
  refine ⟨hsound.step e, ?_⟩
  cases e with
  | call c => exact ⟨hheard.call hsound c, hbal.call hsound c⟩
  | poll poll => exact ⟨hheard.poll hp, hbal.poll poll⟩
  | dispatch outcome =>
    refine ⟨?_, (balanced_dispatch_iff hsound hbal outcome).mpr fun tmpNode s' hsel => (hheard.select hsound hsel).1⟩
    cases hsel : fdSourceSelect g.source with
    | none =>
      have hstep : step g.source (.dispatch outcome) = g.source := by
        show fdSourceDispatch g.source outcome = _
        rw [fdSourceDispatch, hsel]
      rw [hstep]
      exact hheard
    | some r =>
      rw [dispatch_eq hsel]
      exact (hheard.select hsound hsel).2.calls (hsound.select hsel) _

theorem along_enter {Q : EventSourceFd → Event → Prop} (g : Ledger) (es : List Event)
    (h : Along step Q g.source es) : Along enter (fun g e => Q g.source e) g es := by
  induction es generalizing g with
  | nil => trivial
  | cons e es ih => exact ⟨h.1, ih (enter g e) (by rw [enter_source]; exact h.2)⟩

theorem prio_le (p : FdEventPriority) : p.toNat ≤ 2 := by
  cases p <;> decide

theorem Unselected.bypassed {addr : ℕ} {e : Event} (h : Sound s) (hu : Unselected addr s e) :
    Bypassed addr 0 2 eventSourceFdMaxWatchSize s e := by
  obtain ⟨n, hn, haddr, hpending⟩ := hu.node
  exact ⟨⟨n, hn, haddr, hpending, Nat.zero_le _⟩, fun m _ => prio_le _, h.cnt ▸ h.size, hu.other⟩

theorem unselected_le {addr : ℕ} (es : List Event) (h : Sound s) (hm : Mature s) (hu : Along step (Unselected addr) s es) :
    es.countP Event.isDispatch ≤ 48 := by
  have hkeep : ∀ s e, Unselected addr s e → Sound s → Sound (step s e) := fun _ e _ h => h.step e
  exact bypassed_le es h hm (along_invariant hkeep (fun _ _ hu h => hu.bypassed h) hu h)

/-- An event without a callback for reading stays in the list as long as the books are kept. -/
theorem unheard_unselected (m : ℕ) (h : Sound g.source)
    (hbal : ∀ k ≤ m, Balanced (run enter g (List.replicate k idleRound))) {x : WatchNode}
    (hx : x ∈ g.source.watchList) (hpending : x.pending = true) (hread : x.watch.recvEvent = false) :
    Along step (Unselected x.addr) g.source (List.replicate m idleRound) := by
  induction m generalizing g x with
  | zero => trivial
  | succ m ih =>
    obtain ⟨tmpNode, s', hsel⟩ := select_of_pending hx hpending
    have hheard := (balanced_dispatch_iff h (hbal 0 (Nat.zero_le _)) fun _ => ⟨[], true⟩).mp
      (hbal 1 (Nat.succ_le_succ (Nat.zero_le m))) tmpNode s' hsel
    have hne : tmpNode.addr ≠ x.addr := by
      obtain ⟨pre, node, post, hl, -, rfl, -⟩ := select_cases h.addrs hsel
      rw [aged_addr]
      intro haddr
      have hsame : node = x := List.inj_on_of_nodup_map h.addrs (by rw [hl]; simp) hx haddr
      rw [aged_watch, hsame, hread] at hheard
      cases hheard
    have hscript : script tmpNode (fun _ => ⟨[], true⟩) = [] := by simp [script]
    have hstep : (enter g idleRound).source = s' := by
      rw [enter_source, idleRound, dispatch_eq hsel, hscript, run_nil]
    refine ⟨⟨⟨x, hx, rfl, hpending⟩, fun _ tmp s1 hr => ?_⟩, ?_⟩
    · rw [hsel] at hr
      cases hr
      exact hne
    · have hnext := ih (g := enter g idleRound) (x := x.aged) (by rw [hstep]; exact h.select hsel)
        (fun k hk => hbal (k + 1) (Nat.succ_le_succ hk)) (by rw [hstep]; exact aged_mem_select h hsel hx hne)
        (by rw [WatchNode.pending, aged_event]; exact hpending) (by rw [aged_watch]; exact hread)
      rw [aged_addr, enter_source] at hnext
      exact hnext

end Runs

/-- **After every part of a run, and however many rounds of dispatching follow it, every reported event has led
to exactly one invocation, was discarded by a suspension or a removal or is still pending, and no callback was
invoked without a report, exactly when every event that is reported is of a descriptor with a callback for
reading. An event stays pending for at most 48 dispatches before its descriptor is selected.** -/
theorem fdDelivery_iff (es : List Event) :
    ((∀ before after n, es = before ++ after →
        Balanced (run enter Ledger.new (before ++ List.replicate n idleRound))) ∧
      ∀ before after addr, es = before ++ after →
        Along step (Unselected addr) (run step eventSourceFdNew before) after →
        after.countP Event.isDispatch ≤ 48) ↔
      Along step ReportsHeard eventSourceFdNew es := by
  constructor
  · rintro ⟨hbal, -⟩
    refine along_of_splits es _ fun before e after hes => ?_
    cases e with
    | call c => trivial
    | dispatch outcome => trivial
    | poll poll =>
      intro n hn hreports
      by_contra hread
      have hes' : es = before ++ [.poll poll] ++ after := by simp [hes]
      have hsource : (run enter Ledger.new (before ++ [.poll poll])).source =
          fdSourcePoll (run step eventSourceFdNew before) poll := by
        rw [run_enter_source, run_append]
        rfl
      have hsound : Sound (run enter Ledger.new (before ++ [.poll poll])).source := by
        rw [run_enter_source]
        exact Sound.new.run _
      have hmature : Mature (run enter Ledger.new (before ++ [.poll poll])).source := by
        rw [run_enter_source]
        exact mature_run _
      have hlatched : n.latched (pollSet (run step eventSourceFdNew before) poll) ∈
          (run enter Ledger.new (before ++ [.poll poll])).source.watchList := by
        rw [hsource, fdSourcePoll_eq]
        exact List.mem_map_of_mem hn
      have hpending : (n.latched (pollSet (run step eventSourceFdNew before) poll)).pending = true := by
        rw [← pendings_ne_nil_iff]
        intro hnil
        have hperm := latched_pendings (pollSet (run step eventSourceFdNew before) poll) n
        rw [hnil] at hperm
        exact hreports (List.append_eq_nil_iff.mp hperm.symm.eq_nil).2
      have hwait := unheard_unselected 49 hsound
        (fun k _ => by rw [← run_append]; exact hbal _ after k hes') hlatched hpending (Bool.eq_false_iff.mpr hread)
      have hle := unselected_le _ hsound hmature hwait
      exact absurd hle (by decide)
  · intro halong
    refine ⟨fun before after n hes => ?_, fun before after addr _ hu => ?_⟩
    · rw [hes, along_append] at halong
      have hidle : Along step ReportsHeard (run step eventSourceFdNew before) (List.replicate n idleRound) :=
        along_of_forall (fun e he _ => by rw [List.eq_of_mem_replicate he]; trivial) _
      have hall := along_enter Ledger.new _ ((along_append _ _ _ _ _).mpr ⟨halong.1, hidle⟩)
      have hnew : Sound Ledger.new.source ∧ Heard Ledger.new.source ∧ Balanced Ledger.new :=
        ⟨.new, (fun n hn => by cases hn), .refl _⟩
      have hkeep : ∀ g e, ReportsHeard g.source e → Sound g.source ∧ Heard g.source ∧ Balanced g →
          Sound (enter g e).source ∧ Heard (enter g e).source ∧ Balanced (enter g e) := fun _ e => heard_step e
      exact (run_invariant hkeep hall hnew).2.2
    · exact unselected_le after (Sound.new.run before) (mature_run before) hu

/-- A descriptor is watched for writing alone, is ready, and is dispatched. -/
def writerOnly : List Event :=
  [.call (.watch ⟨1, .mid, false, true, false⟩ true), .poll fun set => (1, set), idleRound]

/-- The event was reported, and is neither delivered nor discarded nor pending. -/
theorem write_event_lost :
    (run enter Ledger.new writerOnly).reported = [(0, .write)] ∧ (run enter Ledger.new writerOnly).invoked = [] ∧
      (run enter Ledger.new writerOnly).dropped = [] ∧
      pendings (run enter Ledger.new writerOnly).source.watchList = [] ∧
      ¬ Balanced (run enter Ledger.new writerOnly) := by
  refine ⟨by decide, by decide, by decide, by decide, fun h => ?_⟩
  have hlen := h.length_eq
  revert hlen
  decide

end IotConnect.Fd
