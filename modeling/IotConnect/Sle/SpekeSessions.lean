import IotConnect.Common.Errcode
import IotConnect.Foundations.Keyed
import IotConnect.Foundations.Trace
import Mathlib.Algebra.GroupWithZero.Nat

/-! # SPEKE sessions of the connections

`sle_speke_session.c`: a list of sessions by the ids of their connections. The ids come as `uint32_t`, are kept as
`uint16_t` and searched for as `uint8_t`, and a disconnect releases every session of the list. Each session has a number
of its own here, and it is recorded for which connection it was created and whether it was freed. -/
namespace IotConnect.SleSpeke
open Trace Keyed
set_option autoImplicit false

def sleSessionNumLimit : ℕ := 64

structure SleSessionNode where
  sleSpekeSess : ℕ
  connSessionId : UInt16

structure Sessions where
  list : List SleSessionNode
  next : ℕ
  created : List (UInt32 × ℕ)
  freed : List ℕ
  subscribed : Bool

/-- What the calls in `CreateSleSpekeSess` give: the subscriptions, `SpekeInitSession`, the allocation of the node and
the registration of the callback. -/
structure CreateEnv where
  ssapDisconnect : IotcRet
  mainReset : IotcRet
  mainQuit : IotcRet
  initSession : Bool
  calloc : Bool
  registerCb : IotcRet

namespace Sessions

def init : Sessions := ⟨[], 0, [], [], false⟩

def getSleSessionNode (s : Sessions) (connSessionId : UInt8) : Option ℕ :=
  (s.list.find? fun node => node.connSessionId.toNat = connSessionId.toNat).map SleSessionNode.sleSpekeSess

def getSleSpekeSess (s : Sessions) (connSessionId : UInt32) : Option ℕ := s.getSleSessionNode connSessionId.toUInt8

def free (s : Sessions) (sess : ℕ) : Sessions := { s with freed := s.freed ++ [sess] }

def sleSessionNodeRegister (s : Sessions) (sessNode : ℕ) (connSessionId : UInt32) (calloc : Bool) : IotcRet × Sessions :=
  if sleSessionNumLimit ≤ connSessionId.toNat then (.spekeCreate, s)
  else if (s.getSleSessionNode connSessionId.toUInt8).isSome then (.ok, s)
  else if calloc then
    (.ok, { s with
      list := s.list ++ [⟨sessNode, connSessionId.toUInt16⟩]
      created := s.created ++ [(connSessionId, sessNode)] })
  else (.memErrCalloc, s)

/-- `CreateSleSpekeSess` from `SpekeInitSession` on. -/
def newSession (s : Sessions) (connId : UInt32) (env : CreateEnv) : IotcRet × Sessions :=
  if env.initSession then
    match { s with next := s.next + 1 }.sleSessionNodeRegister s.next connId env.calloc with
    | (.ok, s') => (env.registerCb, s')
    | (_, s') => (.spekeCreate, s'.free s.next)
  else (.spekeCreate, s)

def createSleSpekeSess (s : Sessions) (connId : UInt32) (env : CreateEnv) : IotcRet × Sessions :=
  if (s.getSleSessionNode connId.toUInt8).isSome then (.ok, s)
  else if env.ssapDisconnect ≠ .ok then (env.ssapDisconnect, s)
  else if env.mainReset ≠ .ok then (env.mainReset, { s with subscribed := true })
  else if env.mainQuit ≠ .ok then (env.mainQuit, { s with subscribed := true })
  else { s with subscribed := true }.newSession connId env

/-- `SleSessionNodeRelease`. -/
def destroySleSpekeSess (s : Sessions) : Sessions :=
  { s with list := [], freed := s.freed ++ s.list.map SleSessionNode.sleSpekeSess }

/-- The disconnect event, which `SleSpekeSessClear` gets once it is subscribed. -/
def ssapDisconnect (s : Sessions) : Sessions := if s.subscribed then s.destroySleSpekeSess else s

def Live (s : Sessions) (connId : UInt32) (sess : ℕ) : Prop := (connId, sess) ∈ s.created ∧ sess ∉ s.freed

end Sessions

inductive Event
  | create (connId : UInt32) (env : CreateEnv)
  | get (connId : UInt32)
  | disconnect (connId : UInt32)

def step (s : Sessions) : Event → Sessions
  | .create connId env => (s.createSleSpekeSess connId env).2
  | .get _ => s
  | .disconnect _ => s.ssapDisconnect

/-- A session that is got is one of the connection that is live; after a disconnect the sessions of the other
connections can be got. -/
def PerConnection (s : Sessions) (e : Event) : Prop :=
  match e with
  | .create _ _ => True
  | .get connId => ∀ sess, s.getSleSpekeSess connId = some sess → s.Live connId sess
  | .disconnect connId =>
    ∀ other sess, other ≠ connId → s.Live other sess → (step s e).getSleSpekeSess other = some sess

/-- An id that does not fit a byte is not that of a session when it is cut to one; all the sessions are of the connection
that is lost. -/
def Fits (s : Sessions) : Event → Prop
  | .create _ _ => True
  | .get connId => 2 ^ 8 ≤ connId.toNat → ∀ node ∈ s.list, node.connSessionId.toNat ≠ connId.toNat % 2 ^ 8
  | .disconnect connId => ∀ node ∈ s.list, node.connSessionId.toNat = connId.toNat

/-! ## The list -/

def Listed (s : Sessions) (connId : UInt32) (sess : ℕ) : Prop :=
  ∃ node ∈ s.list, node.sleSpekeSess = sess ∧ node.connSessionId.toNat = connId.toNat

structure Inv (s : Sessions) : Prop where
  nodup : (s.list.map SleSessionNode.connSessionId).Nodup
  small : ∀ node ∈ s.list, node.connSessionId.toNat < sleSessionNumLimit
  live : ∀ connId sess, s.Live connId sess ↔ Listed s connId sess
  created : ∀ p ∈ s.created, p.2 < s.next
  freed : ∀ sess ∈ s.freed, sess < s.next
  subscribed : s.list ≠ [] → s.subscribed = true

theorem Inv.init : Inv Sessions.init where
  nodup := List.nodup_nil
  small := nofun
  live := by
    intro connId sess
    constructor
    · rintro ⟨h, -⟩
      cases h
    · rintro ⟨node, hnode, -⟩
      cases hnode
  created := nofun
  freed := nofun
  subscribed := fun h => absurd rfl h

variable {s : Sessions}

theorem getSleSpekeSess_iff (h : Inv s) (connId : UInt32) (sess : ℕ) : s.getSleSpekeSess connId = some sess ↔
      ∃ node ∈ s.list, node.sleSpekeSess = sess ∧ node.connSessionId.toNat = connId.toNat % 2 ^ 8 := by
  have hbyte : connId.toUInt8.toNat = connId.toNat % 2 ^ 8 := UInt32.toNat_toUInt8 connId
  rw [Sessions.getSleSpekeSess, Sessions.getSleSessionNode, hbyte, Option.map_eq_some_iff]
  constructor
  · rintro ⟨node, hfind, hsess⟩
    have hid := List.find?_some hfind
    exact ⟨node, List.mem_of_find?_eq_some hfind, hsess, of_decide_eq_true hid⟩
  · rintro ⟨node, hnode, hsess, hid⟩
    refine ⟨node, ?_, hsess⟩
    have hfind := find?_key_of_mem h.nodup hnode
    rw [← hfind]
    congr 1
    funext other
    rw [decide_eq_decide, ← hid, UInt16.toNat_inj]

theorem getSleSessionNode_isSome {connId : UInt32} (hsmall : connId.toNat < sleSessionNumLimit)
    (hnone : ¬ (s.getSleSessionNode connId.toUInt8).isSome = true) :
    ∀ node ∈ s.list, node.connSessionId ≠ connId.toUInt16 := by
  intro node hnode heq
  apply hnone
  have hlimit : connId.toNat < 64 := hsmall
  have hid : node.connSessionId.toNat = connId.toUInt8.toNat := by
    rw [heq, UInt32.toNat_toUInt16, UInt32.toNat_toUInt8]
    omega
  rw [Sessions.getSleSessionNode, Option.isSome_map, List.find?_isSome]
  exact ⟨node, hnode, decide_eq_true hid⟩

theorem Inv.subscribe (h : Inv s) : Inv { s with subscribed := true } :=
  ⟨h.nodup, h.small, h.live, h.created, h.freed, fun _ => rfl⟩

theorem Inv.discard (h : Inv s) : Inv ({ s with next := s.next + 1 }.free s.next) where
  nodup := h.nodup
  small := h.small
  live := by
    intro connId sess
    show _ ↔ Listed s connId sess
    rw [← h.live]
    refine and_congr_right fun hcreated => ?_
    have hlt := h.created _ hcreated
    show sess ∉ s.freed ++ [s.next] ↔ _
    rw [List.mem_append, List.mem_singleton, not_or]
    exact and_iff_left (Nat.ne_of_lt hlt)
  created := fun p hp => Nat.lt_succ_of_lt (h.created p hp)
  freed := by
    intro sess hsess
    rcases List.mem_append.mp hsess with hsess | hsess
    · exact Nat.lt_succ_of_lt (h.freed sess hsess)
    · rw [List.mem_singleton.mp hsess]
      exact Nat.lt_succ_self _
  subscribed := h.subscribed

theorem Inv.register (h : Inv s) (hsub : s.subscribed = true) {connId : UInt32}
    (hsmall : connId.toNat < sleSessionNumLimit) (hnew : ∀ node ∈ s.list, node.connSessionId ≠ connId.toUInt16) :
    Inv { s with
      list := s.list ++ [⟨s.next, connId.toUInt16⟩]
      created := s.created ++ [(connId, s.next)]
      next := s.next + 1 } where
  nodup := by
    rw [List.map_append, List.nodup_append]
    refine ⟨h.nodup, List.nodup_singleton _, ?_⟩
    intro c hc d hd heq
    obtain ⟨node, hnode, rfl⟩ := List.mem_map.mp hc
    rw [List.map_singleton, List.mem_singleton] at hd
    exact hnew node hnode (heq.trans hd)
  small := by
    intro node hnode
    have hlimit : connId.toNat < 64 := hsmall
    rcases List.mem_append.mp hnode with hnode | hnode
    · exact h.small node hnode
    · rw [List.mem_singleton.mp hnode]
      show connId.toUInt16.toNat < 64
      rw [UInt32.toNat_toUInt16]
      omega
  live := by
    intro other sess
    have hlimit : connId.toNat < 64 := hsmall
    have hid : connId.toUInt16.toNat = connId.toNat := by
      rw [UInt32.toNat_toUInt16]
      omega
    have hfresh : s.next ∉ s.freed := fun hin => Nat.lt_irrefl _ (h.freed _ hin)
    have hlisted : Listed { s with
        list := s.list ++ [⟨s.next, connId.toUInt16⟩]
        created := s.created ++ [(connId, s.next)]
        next := s.next + 1 } other sess ↔ Listed s other sess ∨ (other = connId ∧ sess = s.next) := by
      simp only [Listed, List.mem_append, List.mem_singleton]
      constructor
      · rintro ⟨node, hnode | rfl, hsess, hother⟩
        · exact .inl ⟨node, hnode, hsess, hother⟩
        · exact .inr ⟨UInt32.toNat.inj (hother.symm.trans hid), hsess.symm⟩
      · rintro (⟨node, hnode, hsess, hother⟩ | ⟨rfl, rfl⟩)
        · exact ⟨node, .inl hnode, hsess, hother⟩
        · exact ⟨_, .inr rfl, rfl, hid⟩
    rw [hlisted, ← h.live]
    simp only [Sessions.Live, List.mem_append, List.mem_singleton, Prod.mk.injEq, or_and_right]
    refine or_congr_right ⟨fun hpair => hpair.1, ?_⟩
    rintro ⟨rfl, rfl⟩
    exact ⟨⟨rfl, rfl⟩, hfresh⟩
  created := by
    intro p hp
    rcases List.mem_append.mp hp with hp | hp
    · exact Nat.lt_succ_of_lt (h.created p hp)
    · rw [List.mem_singleton.mp hp]
      exact Nat.lt_succ_self _
  freed := fun sess hsess => Nat.lt_succ_of_lt (h.freed sess hsess)
  subscribed := fun _ => hsub

theorem Inv.newSession {s : Sessions} (h : Inv s) (hsub : s.subscribed = true) {connId : UInt32}
    (hnone : ¬ (s.getSleSessionNode connId.toUInt8).isSome = true) (env : CreateEnv) :
    Inv (s.newSession connId env).2 := by
  unfold Sessions.newSession
  split_ifs
  · unfold Sessions.sleSessionNodeRegister
    have hsame : ({ s with next := s.next + 1 } : Sessions).getSleSessionNode connId.toUInt8 =
        s.getSleSessionNode connId.toUInt8 := rfl
    rw [hsame, if_neg hnone]
    by_cases hlimit : sleSessionNumLimit ≤ connId.toNat
    · rw [if_pos hlimit]
      exact h.discard
    · have hsmall : connId.toNat < sleSessionNumLimit := Nat.lt_of_not_le hlimit
      rw [if_neg hlimit]
      split_ifs
      · exact h.register hsub hsmall (getSleSessionNode_isSome hsmall hnone)
      · exact h.discard
  · exact h

theorem Inv.create (h : Inv s) (connId : UInt32) (env : CreateEnv) : Inv (s.createSleSpekeSess connId env).2 := by
  unfold Sessions.createSleSpekeSess
  split_ifs with hsome
  · exact h
  · exact h
  · exact h.subscribe
  · exact h.subscribe
  · exact h.subscribe.newSession rfl hsome env

theorem Inv.destroy (h : Inv s) : Inv s.destroySleSpekeSess where
  nodup := List.nodup_nil
  small := nofun
  live := by
    intro connId sess
    refine iff_of_false ?_ ?_
    · rintro ⟨hcreated, hfreed⟩
      rw [Sessions.destroySleSpekeSess, List.mem_append, not_or] at hfreed
      obtain ⟨node, hnode, rfl, -⟩ := (h.live connId sess).mp ⟨hcreated, hfreed.1⟩
      exact hfreed.2 (List.mem_map_of_mem hnode)
    · rintro ⟨node, hnode, -⟩
      cases hnode
  created := h.created
  freed := by
    intro sess hsess
    rcases List.mem_append.mp hsess with hsess | hsess
    · exact h.freed sess hsess
    · obtain ⟨node, hnode, rfl⟩ := List.mem_map.mp hsess
      have hid : node.connSessionId.toUInt32.toNat = node.connSessionId.toNat := UInt16.toNat_toUInt32 _
      exact h.created _ ((h.live node.connSessionId.toUInt32 _).mpr ⟨node, hnode, rfl, hid.symm⟩).1
  subscribed := fun hne => absurd rfl hne

theorem Inv.step {s : Sessions} (h : Inv s) (e : Event) : Inv (step s e) := by
  cases e with
  | create connId env => exact h.create connId env
  | get connId => exact h
  | disconnect connId =>
    show Inv s.ssapDisconnect
    unfold Sessions.ssapDisconnect
    split_ifs
    · exact h.destroy
    · exact h

/-! ## Runs -/

theorem get_iff (h : Inv s) (connId : UInt32) : PerConnection s (.get connId) ↔ Fits s (.get connId) := by
  by_cases hbyte : connId.toNat < 2 ^ 8
  · have hget : PerConnection s (.get connId) := by
      intro sess hsess
      rw [getSleSpekeSess_iff h, Nat.mod_eq_of_lt hbyte] at hsess
      exact (h.live connId sess).mpr hsess
    exact iff_of_true hget fun hlarge => absurd hlarge (Nat.not_le_of_lt hbyte)
  · have hlarge : 2 ^ 8 ≤ connId.toNat := Nat.le_of_not_lt hbyte
    constructor
    · intro hget _ node hnode hid
      -- a session of this connection would have an id below the limit
      have hlive := hget node.sleSpekeSess ((getSleSpekeSess_iff h connId _).mpr ⟨node, hnode, rfl, hid⟩)
      obtain ⟨other, hother, -, hsame⟩ := (h.live connId _).mp hlive
      have hsmall : other.connSessionId.toNat < 64 := h.small other hother
      omega
    · intro hfits sess hsess
      obtain ⟨node, hnode, -, hid⟩ := (getSleSpekeSess_iff h connId sess).mp hsess
      exact absurd hid (hfits hlarge node hnode)

theorem disconnect_iff (h : Inv s) (connId : UInt32) :
    PerConnection s (.disconnect connId) ↔ Fits s (.disconnect connId) := by
  constructor
  · intro hkept node hnode
    by_contra hid
    have hne : s.list ≠ [] := List.ne_nil_of_mem hnode
    have hid' : node.connSessionId.toUInt32.toNat = node.connSessionId.toNat := UInt16.toNat_toUInt32 _
    have hother : node.connSessionId.toUInt32 ≠ connId := by
      rintro rfl
      exact hid hid'.symm
    have hlive := (h.live node.connSessionId.toUInt32 node.sleSpekeSess).mpr ⟨node, hnode, rfl, hid'.symm⟩
    have hget := hkept _ _ hother hlive
    have hgone : SleSpeke.step s (.disconnect connId) = s.destroySleSpekeSess := if_pos (h.subscribed hne)
    rw [hgone] at hget
    cases hget
  · intro hfits other sess hother hlive
    obtain ⟨node, hnode, -, hid⟩ := (h.live other sess).mp hlive
    exact absurd (UInt32.toNat.inj (hid.symm.trans (hfits node hnode))) hother

theorem perConnection_iff (h : Inv s) (e : Event) : PerConnection s e ↔ Fits s e := by
  cases e with
  | create connId env => exact Iff.rfl
  | get connId => exact get_iff h connId
  | disconnect connId => exact disconnect_iff h connId

/-- In every run over any ids, a session is got only for the connection it was created for while it is not freed, and a
disconnect leaves the sessions of the other connections, exactly when no id is cut to that of another session and no
connection is lost while another one has a session. -/
theorem sessions_separate_iff (es : List Event) :
    Along step PerConnection Sessions.init es ↔ Along step Fits Sessions.init es := by
  have hstep : ∀ s e, Fits s e → Inv s → Inv (step s e) := fun s e _ h => h.step e
  have hiff : ∀ s e, Inv s → (PerConnection s e ↔ Fits s e) := fun s e h => perConnection_iff h e
  exact along_step_iff hstep hiff Inv.init es

/-- The session of the connection `0` is got for `256`; and the disconnect of `0` takes the session of `1` away. -/
theorem sessions_mixed_up :
    ¬ Along step PerConnection Sessions.init [.create 0 ⟨.ok, .ok, .ok, true, true, .ok⟩, .get 256] ∧
      ¬ Along step PerConnection Sessions.init
        [.create 0 ⟨.ok, .ok, .ok, true, true, .ok⟩, .create 1 ⟨.ok, .ok, .ok, true, true, .ok⟩, .disconnect 0] := by
  constructor
  · rintro ⟨-, hget, -⟩
    have hlive := (hget 0 (by decide)).1
    revert hlive
    decide
  · rintro ⟨-, -, hkept, -⟩
    have hget := hkept 1 1 (by decide) ⟨by decide, by decide⟩
    revert hget
    decide

end IotConnect.SleSpeke
