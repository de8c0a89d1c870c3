import IotConnect.Speke.Session
import IotConnect.Transport.Session

/-! # Peers of the SoftAP service (`svc_softap_sess.c`)

The service keeps a table with a slot for each peer, which is looked up by the address a message comes from or
goes to. A slot is cleared before it is given to a new peer. -/
namespace IotConnect.Softap
open Speke Transport
set_option autoImplicit false

/-- `recvBitMap` and `sendBitMap`: what is not done to a message. -/
structure MsgBits where
  plain : Bool
  noBase64 : Bool
  deriving DecidableEq

def MsgBits.clear : MsgBits := ⟨false, false⟩

/-- `linkActive` and `spekeSessCreated` are bits of `bitMap`. -/
structure SoftapPeerSess where
  linkActive : Bool
  spekeSessCreated : Bool
  addrInfo : SocketAddr
  recvBitMap : MsgBits
  sendBitMap : MsgBits
  speke : Option SpekeSession

def SoftapPeerSess.cleared : SoftapPeerSess := ⟨false, false, ⟨0, 0⟩, .clear, .clear, none⟩

/-- What the calls of the platform return when a slot is given to a peer: the addresses of the stations, and
whether the timer was started. -/
structure PeerEnv where
  stations : Except IotcRet (List UInt32)
  timer : Bool

/-- The loop of `FindSoftapPeerSession` from slot `i` on. -/
def findSlot (addr : UInt32) : List SoftapPeerSess → ℕ → Option ℕ → Option ℕ
  | [], _, empty => empty
  | peer :: peerSess, i, empty =>
    if addr = peer.addrInfo.addr then some i
    else findSlot addr peerSess (i + 1) (if peer.linkActive = false then some i else empty)

def findSoftapPeerSession (peerSess : List SoftapPeerSess) (addr : SocketAddr) : Option ℕ :=
  findSlot addr.addr peerSess 0 none

def createPeerSession (env : PeerEnv) (addr : SocketAddr) : Bool × SoftapPeerSess :=
  match env.stations with
  | .error _ => (false, .cleared)
  | .ok stations =>
    if addr.addr ∉ stations then (false, .cleared)
    else if env.timer = false then (false, .cleared)
    else (true, { SoftapPeerSess.cleared with linkActive := true, addrInfo := addr })

def softapGetPeerSess (peerSess : List SoftapPeerSess) (addr : SocketAddr) : Option (ℕ × SoftapPeerSess) :=
  match findSoftapPeerSession peerSess addr with
  | none => none
  | some i =>
    match peerSess[i]? with
    | none => none
    | some peer => if peer.linkActive = false then none else some (i, peer)

def softapGetPeerSessCreateIfNotExist (env : PeerEnv) (peerSess : List SoftapPeerSess) (addr : SocketAddr) :
    Option (ℕ × SoftapPeerSess) × List SoftapPeerSess :=
  match findSoftapPeerSession peerSess addr with
  | none => (none, peerSess)
  | some i =>
    match peerSess[i]? with
    | none => (none, peerSess)
    | some peer =>
      if peer.linkActive = false then
        let (created, peer) := createPeerSession env addr
        (if created then some (i, peer) else none, peerSess.set i peer)
      else (some (i, peer), peerSess)

/-! ## The slot of an address -/

variable {peerSess : List SoftapPeerSess} {i : ℕ}

theorem findSlot_some {addr : UInt32} {k : ℕ} {empty : Option ℕ} (h : findSlot addr peerSess k empty = some i) :
    (empty = some i ∧ ∀ p ∈ peerSess, p.addrInfo.addr ≠ addr) ∨
      ∃ j peer, i = k + j ∧ peerSess[j]? = some peer ∧ (peer.addrInfo.addr = addr ∨ peer.linkActive = false) ∧
        ∀ p ∈ peerSess.take j, p.addrInfo.addr ≠ addr := by
  induction peerSess generalizing k empty with
  | nil => exact .inl ⟨h, by simp⟩
  | cons peer peerSess ih =>
    rw [findSlot] at h
    by_cases haddr : addr = peer.addrInfo.addr
    · rw [if_pos haddr] at h
      cases h
      exact .inr ⟨0, peer, rfl, rfl, .inl haddr.symm, by simp⟩
    rw [if_neg haddr] at h
    have hne : peer.addrInfo.addr ≠ addr := fun heq => haddr heq.symm
    rcases ih h with ⟨hempty, hall⟩ | ⟨j, p, hi, hp, hfound, hall⟩
    · by_cases hactive : peer.linkActive = false
      · rw [if_pos hactive] at hempty
        cases hempty
        exact .inr ⟨0, peer, rfl, rfl, .inr hactive, by simp⟩
      · rw [if_neg hactive] at hempty
        exact .inl ⟨hempty, List.forall_mem_cons.mpr ⟨hne, hall⟩⟩
    · exact .inr ⟨j + 1, p, by omega, hp, hfound, List.forall_mem_cons.mpr ⟨hne, hall⟩⟩

variable {peer : SoftapPeerSess}

theorem findSlot_of_first {addr : UInt32} {j : ℕ}
    (hpeer : peerSess[j]? = some peer) (haddr : peer.addrInfo.addr = addr)
    (hbefore : ∀ p ∈ peerSess.take j, p.addrInfo.addr ≠ addr) (k : ℕ) (empty : Option ℕ) :
    findSlot addr peerSess k empty = some (k + j) := by
  induction peerSess generalizing k empty j with
  | nil => cases hpeer
  | cons p peerSess ih =>
    rw [findSlot]
    cases j with
    | zero =>
      cases hpeer
      rw [if_pos haddr.symm]
      rfl
    | succ j =>
      rw [List.take_succ_cons, List.forall_mem_cons] at hbefore
      rw [if_neg fun heq => hbefore.1 heq.symm, ih hpeer hbefore.2]
      congr 1
      omega

variable {addr : SocketAddr}

theorem softapGetPeerSess_eq_some (h : softapGetPeerSess peerSess addr = some (i, peer)) :
    findSoftapPeerSession peerSess addr = some i ∧ peerSess[i]? = some peer ∧ peer.linkActive = true := by
  unfold softapGetPeerSess at h
  cases hfind : findSoftapPeerSession peerSess addr with
  | none =>
    rw [hfind] at h
    cases h
  | some j =>
    rw [hfind] at h
    dsimp only at h
    cases hget : peerSess[j]? with
    | none =>
      rw [hget] at h
      cases h
    | some p =>
      rw [hget] at h
      dsimp only at h
      split at h
      · cases h
      · rename_i hactive
        cases h
        exact ⟨rfl, hget, by simpa using hactive⟩

theorem softapGetPeerSess_spec (h : softapGetPeerSess peerSess addr = some (i, peer)) :
    peer ∈ peerSess ∧ peer.linkActive = true ∧ peer.addrInfo.addr = addr.addr := by
  obtain ⟨hfind, hget, hactive⟩ := softapGetPeerSess_eq_some h
  refine ⟨List.mem_of_getElem? hget, hactive, ?_⟩
  rcases findSlot_some hfind with ⟨hnone, -⟩ | ⟨j, p, hi, hp, hfound, -⟩
  · cases hnone
  · rw [Nat.zero_add] at hi
    subst hi
    rw [hget] at hp
    cases hp
    rcases hfound with haddr | hfree
    · exact haddr
    · rw [hactive] at hfree
      cases hfree

theorem softapGetPeerSess_set
    (hfind : findSoftapPeerSession peerSess addr = some i) (hactive : peer.linkActive = true)
    (haddr : peer.addrInfo.addr = addr.addr) :
    softapGetPeerSess (peerSess.set i peer) addr = some (i, peer) := by
  rcases findSlot_some hfind with ⟨hnone, -⟩ | ⟨j, p, hi, hp, -, hbefore⟩
  · cases hnone
  rw [Nat.zero_add] at hi
  subst hi
  have hlt : i < peerSess.length := (List.getElem?_eq_some_iff.mp hp).1
  have hget : (peerSess.set i peer)[i]? = some peer := List.getElem?_set_self hlt
  have hbefore' : ∀ q ∈ (peerSess.set i peer).take i, q.addrInfo.addr ≠ addr.addr := by
    rw [List.take_set_of_le (Nat.le_refl i)]
    exact hbefore
  have hfind' : findSoftapPeerSession (peerSess.set i peer) addr = some i := by
    rw [findSoftapPeerSession, findSlot_of_first hget haddr hbefore', Nat.zero_add]
  rw [softapGetPeerSess, hfind']
  dsimp only
  rw [hget]
  dsimp only
  rw [if_neg (by rw [hactive]; decide)]

theorem createPeerSession_ok {env : PeerEnv} (h : createPeerSession env addr = (true, peer)) :
    peer = { SoftapPeerSess.cleared with linkActive := true, addrInfo := addr } := by
  unfold createPeerSession at h
  split at h
  · cases h
  split at h
  · cases h
  split at h
  · cases h
  · cases h
    rfl

theorem softapGetPeerSessCreateIfNotExist_some {env : PeerEnv} {peerSess' : List SoftapPeerSess}
    (h : softapGetPeerSessCreateIfNotExist env peerSess addr = (some (i, peer), peerSess')) :
    findSoftapPeerSession peerSess addr = some i ∧ peer.linkActive = true ∧ peer.addrInfo.addr = addr.addr ∧
      peerSess' = peerSess.set i peer ∧
      (softapGetPeerSess peerSess addr = some (i, peer) ∨ peer.spekeSessCreated = false) := by
  unfold softapGetPeerSessCreateIfNotExist at h
  cases hfind : findSoftapPeerSession peerSess addr with
  | none =>
    rw [hfind] at h
    cases h
  | some j =>
    rw [hfind] at h
    dsimp only at h
    cases hget : peerSess[j]? with
    | none =>
      rw [hget] at h
      cases h
    | some p =>
      rw [hget] at h
      dsimp only at h
      split at h
      · rcases hcreate : createPeerSession env addr with ⟨created, q⟩
        rw [hcreate] at h
        cases created with
        | false => cases h
        | true =>
          cases h
          rw [createPeerSession_ok hcreate]
          exact ⟨rfl, rfl, rfl, rfl, .inr rfl⟩
      · rename_i hactive
        cases h
        have hpeer : softapGetPeerSess peerSess addr = some (i, peer) := by
          rw [softapGetPeerSess, hfind]
          dsimp only
          rw [hget]
          dsimp only
          rw [if_neg hactive]
        obtain ⟨-, hact, haddr⟩ := softapGetPeerSess_spec hpeer
        refine ⟨rfl, hact, haddr, ?_, .inl hpeer⟩
        obtain ⟨hlt, rfl⟩ := List.getElem?_eq_some_iff.mp hget
        exact (List.set_getElem_self hlt).symm

end IotConnect.Softap
