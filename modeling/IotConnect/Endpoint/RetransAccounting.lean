import IotConnect.Endpoint.Retrans
import IotConnect.Foundations.Keyed

/-! # The accounts of the stored packets (`coap_endpoint_retrans.c`)

`curBufSize` is the size of the packets that are stored, and `CoapRetransAddPacket` compares a packet with
`maxBufSize - curBufSize`. The difference wraps once `CoapEndpointRetransEnable` was called again with less than is
stored: then packets of any size are added. With the default check a packet is sent again five times and freed with
the fifth. -/
namespace IotConnect.Endpoint
open Coap Trace Keyed
set_option autoImplicit false

/-! ## Calls -/

def coapEndpointRetransEnable (lock : Bool) (maxBufSize : UInt32) (retrans : CoapEndpointRetrans) :
    IotcRet × CoapEndpointRetrans :=
  if maxBufSize = 0 then (.errParamInvalid, retrans)
  else if lock = false then (.errTimeout, retrans)
  else (.ok, { retrans with enabled := true, maxBufSize := maxBufSize })

/-- `CoapEndpointRetransDefaultCheckFunc` -/
def coapEndpointRetransDefaultCheckFunc (param : CoapRetransParam) (_raw : List UInt8) : Option UInt32 :=
  if 5 ≤ param.cnt then none else some 1000

/-- The `retrans` of a new endpoint. -/
def CoapEndpointRetrans.new : CoapEndpointRetrans := ⟨false, 0, 0, []⟩

/-- A packet's length is a `uint32_t`. -/
structure RawPacket where
  bytes : List UInt8
  fits : bytes.length < 2 ^ 32

inductive RetransOp
  | enable (lock : Bool) (maxBufSize : UInt32)
  | add (env : RetransEnv) (sent : Sent) (pkt : CoapPacket) (raw : RawPacket) (addr : Transport.SocketAddr)
  | check (cur : UInt32)
  | dispatch (env : RetransEnv)

def opStep (retrans : CoapEndpointRetrans) : RetransOp → CoapEndpointRetrans
  | .enable lock maxBufSize => (coapEndpointRetransEnable lock maxBufSize retrans).2
  | .add env sent pkt raw addr => (coapRetransAddPacket env sent pkt raw.bytes addr retrans).2
  | .check cur => coapEndpointRetransCheck cur retrans
  | .dispatch env => (coapEndpointRetransDispatch env retrans).2

/-! ## Sizes -/

def totalLen (nodes : List CoapRetransNode) : ℕ := (nodes.map fun node => node.raw.length).sum

def CoapEndpointRetrans.Accounted (retrans : CoapEndpointRetrans) : Prop :=
  retrans.curBufSize.toNat = totalLen retrans.retransList

def Adds (retrans : CoapEndpointRetrans) (op : RetransOp) : Prop :=
  retrans.retransList.length < (opStep retrans op).retransList.length

/-- The sum is kept, and a packet is added only below the bound. -/
def OpAccounted (retrans : CoapEndpointRetrans) (op : RetransOp) : Prop :=
  (opStep retrans op).Accounted ∧
    (Adds retrans op → totalLen (opStep retrans op).retransList ≤ retrans.maxBufSize.toNat)

/-- A packet is added only while the stored ones are within the bound. -/
def WithinBound (retrans : CoapEndpointRetrans) (op : RetransOp) : Prop :=
  Adds retrans op → retrans.curBufSize ≤ retrans.maxBufSize

theorem totalLen_cons (node : CoapRetransNode) (nodes : List CoapRetransNode) :
    totalLen (node :: nodes) = node.raw.length + totalLen nodes := by
  rw [totalLen, List.map_cons, List.sum_cons]
  rfl

theorem totalLen_snoc (nodes : List CoapRetransNode) (node : CoapRetransNode) :
    totalLen (nodes ++ [node]) = totalLen nodes + node.raw.length := by
  rw [totalLen, List.map_append, List.sum_append]
  rfl

theorem toNat_toUInt32 {n : ℕ} (h : n < 2 ^ 32) : n.toUInt32.toNat = n := by
  rw [Nat.toUInt32_eq, UInt32.toNat_ofNat', Nat.mod_eq_of_lt h]

theorem freed_toNat {size : UInt32} {len rest : ℕ} (h : size.toNat = rest + len) :
    (if len.toUInt32 < size then size - len.toUInt32 else 0).toNat = rest := by
  have hlen : len.toUInt32.toNat = len := toNat_toUInt32 (by have := size.toNat_lt; omega)
  split_ifs with hlt
  · rw [UInt32.lt_iff_toNat_lt, hlen] at hlt
    rw [UInt32.toNat_sub_of_le _ _ (by rw [UInt32.le_iff_toNat_le]; omega), hlen]
    omega
  · rw [UInt32.lt_iff_toNat_lt, hlen] at hlt
    rw [UInt32.toNat_zero]
    omega

/-- `k` is the size of the nodes behind the loop. -/
theorem retransDispatch_size (env : RetransEnv) (enabled : Bool) (nodes : List CoapRetransNode) {size : UInt32} {k : ℕ}
    (h : size.toNat = k + totalLen nodes) :
    (retransDispatch env enabled size nodes).2.1.toNat =
      k + totalLen (retransDispatch env enabled size nodes).2.2 := by
  induction nodes generalizing size k with
  | nil => exact h
  | cons node nodes ih =>
    rw [totalLen_cons] at h
    rw [retransDispatch]
    dsimp only
    split
    · rw [totalLen_cons, ← Nat.add_assoc]
      exact ih (by omega)
    split
    · rw [totalLen_cons, ← Nat.add_assoc]
      exact @ih size (k + node.raw.length) (by omega)
    · exact ih (freed_toNat (by omega))

/-- Adding a packet leaves the list as it is, or appends a node with the bytes of the packet. -/
theorem addPacket_cases (env : RetransEnv) (sent : Sent) (pkt : CoapPacket) (raw : List UInt8)
    (addr : Transport.SocketAddr) (retrans : CoapEndpointRetrans) :
    (coapRetransAddPacket env sent pkt raw addr retrans).2 = retrans ∨
      raw ≠ [] ∧ retrans.enabled = true ∧ ¬ retrans.maxBufSize - retrans.curBufSize < raw.length.toUInt32 ∧
      ∃ node : CoapRetransNode, node.raw = raw ∧ node.param.cnt = 0 ∧
        (env.check node.param raw).isSome = true ∧
        (coapRetransAddPacket env sent pkt raw addr retrans).2 =
          { retrans with curBufSize := retrans.curBufSize + raw.length.toUInt32
                         retransList := retrans.retransList ++ [node] } := by
  unfold coapRetransAddPacket retransNodeNew
  split
  · exact .inl rfl
  next hraw =>
  split
  · exact .inl rfl
  next henabled =>
  split
  · exact .inl rfl
  split
  · exact .inl rfl
  next hsize =>
  split
  · exact .inl rfl
  next newNode hnew =>
  split at hnew
  · cases hnew
  cases hnew
  dsimp only
  split
  · exact .inl rfl
  next remainTime hcheck =>
  refine .inr ⟨hraw, Bool.not_eq_false _ ▸ henabled, hsize, _, rfl, rfl, ?_, rfl⟩
  rw [hcheck]
  rfl

theorem add_accounted_iff {retrans : CoapEndpointRetrans} (h : retrans.Accounted) (env : RetransEnv) (sent : Sent)
    (pkt : CoapPacket) (raw : RawPacket) (addr : Transport.SocketAddr) :
    OpAccounted retrans (.add env sent pkt raw addr) ↔ WithinBound retrans (.add env sent pkt raw addr) := by
  unfold OpAccounted WithinBound Adds opStep
  dsimp only
  obtain hsame | ⟨hraw, -, hsize, node, hnode, -, -, hadd⟩ := addPacket_cases env sent pkt raw.bytes addr retrans
  · rw [hsame]
    exact ⟨fun _ hlt => absurd hlt (Nat.lt_irrefl _), fun _ => ⟨h, fun hlt => absurd hlt (Nat.lt_irrefl _)⟩⟩
  · have hlen := toNat_toUInt32 raw.fits
    have hpos : 0 < raw.bytes.length := List.length_pos_of_ne_nil hraw
    have hmax := retrans.maxBufSize.toNat_lt
    rw [hadd]
    unfold CoapEndpointRetrans.Accounted at h ⊢
    simp only [List.length_append, List.length_singleton, Nat.lt_succ_self, true_imp_iff, totalLen_snoc, hnode, ← h]
    rw [UInt32.le_iff_toNat_le]
    constructor
    · rintro ⟨-, hle⟩
      omega
    · intro hle
      rw [UInt32.not_lt, UInt32.le_iff_toNat_le, UInt32.toNat_sub_of_le _ _ (UInt32.le_iff_toNat_le.mpr hle), hlen]
        at hsize
      rw [UInt32.toNat_add, hlen, Nat.mod_eq_of_lt (by omega)]
      exact ⟨rfl, by omega⟩

theorem totalLen_elapse (cur : UInt32) (nodes : List CoapRetransNode) :
    totalLen (nodes.map (CoapRetransNode.elapse cur)) = totalLen nodes := by
  rw [totalLen, List.map_map]
  rfl

theorem dispatch_length (env : RetransEnv) (enabled : Bool) (nodes : List CoapRetransNode) (size : UInt32) :
    (retransDispatch env enabled size nodes).2.2.length ≤ nodes.length := by
  induction nodes generalizing size with
  | nil => exact Nat.le_refl _
  | cons node nodes ih =>
    rw [retransDispatch]
    dsimp only
    split
    · exact Nat.succ_le_succ (ih size)
    split
    · exact Nat.succ_le_succ (ih size)
    · exact Nat.le_succ_of_le (ih _)

/-- The sum is kept, and nothing is added. -/
def KeptBy (retrans retrans' : CoapEndpointRetrans) : Prop :=
  retrans'.Accounted ∧ retrans'.retransList.length ≤ retrans.retransList.length

section
variable {retrans : CoapEndpointRetrans} (h : retrans.Accounted)
include h

theorem enable_kept (lock : Bool) (maxBufSize : UInt32) :
    KeptBy retrans (coapEndpointRetransEnable lock maxBufSize retrans).2 := by
  unfold coapEndpointRetransEnable
  split_ifs <;> exact ⟨h, Nat.le_refl _⟩

theorem check_kept (cur : UInt32) : KeptBy retrans (coapEndpointRetransCheck cur retrans) := by
  unfold coapEndpointRetransCheck
  split_ifs
  · exact ⟨h, Nat.le_refl _⟩
  · exact ⟨h.trans (totalLen_elapse cur _).symm, Nat.le_of_eq (List.length_map _)⟩

theorem dispatch_kept (env : RetransEnv) : KeptBy retrans (coapEndpointRetransDispatch env retrans).2 := by
  unfold coapEndpointRetransDispatch
  split_ifs
  · exact ⟨h, Nat.le_refl _⟩
  · have hsize := @retransDispatch_size env retrans.enabled retrans.retransList retrans.curBufSize 0
      (h.trans (Nat.zero_add _).symm)
    rw [Nat.zero_add] at hsize
    exact ⟨hsize, dispatch_length env _ _ _⟩

theorem opAccounted_iff (op : RetransOp) : OpAccounted retrans op ↔ WithinBound retrans op := by
  have hother : KeptBy retrans (opStep retrans op) → (OpAccounted retrans op ↔ WithinBound retrans op) := by
    rintro ⟨hkept, hle⟩
    have hnot : ¬ Adds retrans op := Nat.not_lt.mpr hle
    exact ⟨fun _ hadds => absurd hadds hnot, fun _ => ⟨hkept, fun hadds => absurd hadds hnot⟩⟩
  cases op with
  | enable lock maxBufSize => exact hother (enable_kept h lock maxBufSize)
  | add env sent pkt raw addr => exact add_accounted_iff h env sent pkt raw addr
  | check cur => exact hother (check_kept h cur)
  | dispatch env => exact hother (dispatch_kept h env)

end

theorem along_accounted_iff (ops : List RetransOp) :
    Along opStep OpAccounted .new ops ↔ Along opStep WithinBound .new ops := by
  have hnew : CoapEndpointRetrans.new.Accounted := rfl
  exact along_step_iff (fun retrans op hop (h : retrans.Accounted) => ((opAccounted_iff h op).mpr hop).1)
    (fun _ op h => opAccounted_iff h op) hnew ops

/-! ## The life of a packet -/

/-- What `CoapEndpointRetransDispatch` does with one node: whether it sends it, and what it keeps of it. -/
def CoapRetransNode.dispatched (env : RetransEnv) (enabled : Bool) (node : CoapRetransNode) :
    Bool × Option CoapRetransNode :=
  if node.remainTime ≠ 0 then (false, some node)
  else
    let param := { node.param with cnt := node.param.cnt + 1 }
    (true, (if enabled then env.check param node.raw else none).map
      fun remainTime => { node with param := param, remainTime := remainTime })

theorem retransDispatch_kept (env : RetransEnv) (enabled : Bool) (size : UInt32) (nodes : List CoapRetransNode) :
    (retransDispatch env enabled size nodes).2.2 = nodes.filterMap fun node => (node.dispatched env enabled).2 := by
  induction nodes generalizing size with
  | nil => rfl
  | cons node nodes ih =>
    rw [retransDispatch, List.filterMap_cons, CoapRetransNode.dispatched]
    dsimp only
    split
    · exact congrArg _ (ih size)
    next hdue =>
    dsimp only
    cases hcheck : (if enabled = true then env.check { node.param with cnt := node.param.cnt + 1 } node.raw else none) with
    | none => exact ih _
    | some remainTime => exact congrArg _ (ih size)

/-- The stored nodes with the numbers they got when they were added, and how often each number was sent again by
`CoapEndpointRetransDispatch` and freed by it. -/
structure RetransLedger where
  retrans : CoapEndpointRetrans
  nodes : List (ℕ × CoapRetransNode)
  serial : ℕ
  resent : ℕ → ℕ
  freed : ℕ → ℕ

def RetransLedger.new : RetransLedger := ⟨.new, [], 0, fun _ => 0, fun _ => 0⟩

def ledgerStep (l : RetransLedger) (op : RetransOp) : RetransLedger :=
  let l' := { l with retrans := opStep l.retrans op }
  match op with
  | .enable _ _ => l'
  | .add _ _ _ _ _ =>
    match l'.retrans.retransList.drop l.retrans.retransList.length with
    | [] => l'
    | node :: _ => { l' with nodes := l.nodes ++ [(l.serial, node)], serial := l.serial + 1 }
  | .check cur =>
    if cur = 0 then l' else { l' with nodes := l.nodes.map fun p => (p.1, p.2.elapse cur) }
  | .dispatch env =>
    if env.lock = false then l'
    else
      let dispatched := CoapRetransNode.dispatched env l.retrans.enabled
      { l' with
        nodes := l.nodes.filterMap fun p => (dispatched p.2).2.map (p.1, ·)
        resent := fun i => l.resent i + l.nodes.countP fun p => p.1 = i && (dispatched p.2).1
        freed := fun i => l.freed i + l.nodes.countP fun p => p.1 = i && (dispatched p.2).2.isNone }

/-- The default check is the one in force. -/
def RetransOp.Default : RetransOp → Prop
  | .add env _ _ _ _ => env.check = coapEndpointRetransDefaultCheckFunc
  | .dispatch env => env.check = coapEndpointRetransDefaultCheckFunc
  | _ => True

/-- A stored packet was not freed, and was sent again less than five times; a packet that is gone was sent again five
times, and freed once. -/
structure RetransLedger.Settled (l : RetransLedger) : Prop where
  nodes : l.nodes.map Prod.snd = l.retrans.retransList
  stored : ∀ p ∈ l.nodes, l.resent p.1 = p.2.param.cnt.toNat ∧ p.2.param.cnt.toNat < 5 ∧ l.freed p.1 = 0
  gone : ∀ i < l.serial, i ∉ l.nodes.map Prod.fst → l.resent i = 5 ∧ l.freed i = 1

structure RetransLedger.Inv (l : RetransLedger) : Prop extends l.Settled where
  distinct : (l.nodes.map Prod.fst).Nodup
  numbered : ∀ p ∈ l.nodes, p.1 < l.serial
  ahead : ∀ i, l.serial ≤ i → l.resent i = 0 ∧ l.freed i = 0
  enabled : l.nodes ≠ [] → l.retrans.enabled = true

theorem dispatched_default {env : RetransEnv} {enabled : Bool} {node : CoapRetransNode}
    (hcheck : env.check = coapEndpointRetransDefaultCheckFunc) (henabled : enabled = true)
    (hcnt : node.param.cnt.toNat < 5) :
    node.dispatched env enabled = (false, some node) ∨
      (∃ node', node.dispatched env enabled = (true, some node') ∧
        node'.param.cnt.toNat = node.param.cnt.toNat + 1 ∧ node.param.cnt.toNat < 4) ∨
      node.param.cnt.toNat = 4 ∧ node.dispatched env enabled = (true, none) := by
  have hnext : (node.param.cnt + 1).toNat = node.param.cnt.toNat + 1 := by
    rw [UInt8.toNat_add, UInt8.toNat_one, Nat.mod_eq_of_lt (by omega)]
  unfold CoapRetransNode.dispatched
  split
  · exact .inl rfl
  rw [hcheck]
  unfold coapEndpointRetransDefaultCheckFunc
  dsimp only
  split_ifs with hdone
  · rw [UInt8.le_iff_toNat_le, hnext] at hdone
    exact .inr (.inr ⟨Nat.le_antisymm (by omega) (Nat.le_of_succ_le_succ hdone), rfl⟩)
  · rw [UInt8.le_iff_toNat_le, hnext] at hdone
    exact .inr (.inl ⟨_, rfl, hnext, Nat.lt_of_succ_lt_succ (Nat.lt_of_not_le hdone)⟩)

section
variable {l : RetransLedger} (h : l.Inv)
include h

theorem RetransLedger.Inv.enable (lock : Bool) (maxBufSize : UInt32) : (ledgerStep l (.enable lock maxBufSize)).Inv := by
  unfold ledgerStep opStep coapEndpointRetransEnable
  dsimp only
  split_ifs
  · exact h
  · exact h
  · exact { h with enabled := fun _ => rfl }

theorem RetransLedger.Inv.add (env : RetransEnv) (sent : Sent) (pkt : CoapPacket) (raw : RawPacket)
    (addr : Transport.SocketAddr) : (ledgerStep l (.add env sent pkt raw addr)).Inv := by
  unfold ledgerStep opStep
  dsimp only
  obtain hsame | ⟨-, henabled, -, node, -, hcnt, -, hadd⟩ := addPacket_cases env sent pkt raw.bytes addr l.retrans
  · rw [hsame, List.drop_length]
    exact h
  · rw [hadd]
    dsimp only
    rw [List.drop_left]
    obtain ⟨hresent, hfreed⟩ := h.ahead l.serial (Nat.le_refl _)
    have hnew : l.serial ∉ l.nodes.map Prod.fst := fun hmem => by
      obtain ⟨p, hp, heq⟩ := List.mem_map.mp hmem
      have := h.numbered p hp
      omega
    refine ⟨⟨?_, fun p hp => ?_, fun i hi hgone => ?_⟩, ?_, fun p hp => ?_, fun i hi => h.ahead i ?_, fun _ => henabled⟩
    · rw [List.map_append, h.nodes]
      rfl
    · rcases List.mem_append.mp hp with hp | hp
      · exact h.stored p hp
      · rw [List.mem_singleton.mp hp, hcnt, hresent, hfreed]
        exact ⟨rfl, by decide, rfl⟩
    · dsimp only at hi hgone ⊢
      rw [List.map_append, List.mem_append, not_or] at hgone
      have hne : i ≠ l.serial := fun heq => hgone.2 (by rw [heq]; exact List.mem_singleton_self _)
      exact h.gone i (by omega) hgone.1
    · rw [List.map_append, List.map_singleton, ← List.concat_eq_append]
      exact List.Nodup.concat hnew h.distinct
    · dsimp only
      rcases List.mem_append.mp hp with hp | hp
      · exact Nat.lt_succ_of_lt (h.numbered p hp)
      · rw [List.mem_singleton.mp hp]
        exact Nat.lt_succ_self _
    · dsimp only at hi
      omega

theorem RetransLedger.Inv.check (cur : UInt32) : (ledgerStep l (.check cur)).Inv := by
  unfold ledgerStep opStep coapEndpointRetransCheck
  dsimp only
  split_ifs
  · exact h
  · have hkeys : (l.nodes.map fun p => (p.1, p.2.elapse cur)).map Prod.fst = l.nodes.map Prod.fst := by
      rw [List.map_map]
      rfl
    refine ⟨⟨?_, fun p hp => ?_, ?_⟩, ?_, fun p hp => ?_, h.ahead, fun hne => h.enabled fun hnil => hne ?_⟩
    · dsimp only
      rw [← h.nodes, List.map_map, List.map_map]
      rfl
    · obtain ⟨q, hq, rfl⟩ := List.mem_map.mp hp
      exact h.stored q hq
    · rw [hkeys]
      exact h.gone
    · rw [hkeys]
      exact h.distinct
    · obtain ⟨q, hq, rfl⟩ := List.mem_map.mp hp
      exact h.numbered q hq
    · rw [hnil]
      rfl

section
variable {env : RetransEnv} (hcheck : env.check = coapEndpointRetransDefaultCheckFunc) {p : ℕ × CoapRetransNode}
  (hp : p ∈ l.nodes)
include hcheck hp

/-- A node that stays has been sent again as often as it says. -/
theorem RetransLedger.Inv.dispatch_kept {node : CoapRetransNode}
    (hkept : (p.2.dispatched env l.retrans.enabled).2 = some node) :
    (l.resent p.1 + if (p.2.dispatched env l.retrans.enabled).1 then 1 else 0) = node.param.cnt.toNat ∧
      node.param.cnt.toNat < 5 := by
  obtain ⟨hresent, hcnt, -⟩ := h.stored p hp
  obtain heq | ⟨node', heq, hnext, hlt⟩ | ⟨-, heq⟩ :=
    dispatched_default hcheck (h.enabled (List.ne_nil_of_mem hp)) hcnt
  · rw [heq, Option.some.injEq] at hkept
    rw [heq, ← hkept, hresent]
    exact ⟨rfl, hcnt⟩
  · rw [heq, Option.some.injEq] at hkept
    rw [heq, ← hkept, hnext, hresent]
    exact ⟨rfl, by omega⟩
  · rw [heq] at hkept
    cases hkept

/-- A node goes with its fifth time. -/
theorem RetransLedger.Inv.dispatch_dropped (hdropped : (p.2.dispatched env l.retrans.enabled).2 = none) :
    (l.resent p.1 + if (p.2.dispatched env l.retrans.enabled).1 then 1 else 0) = 5 := by
  obtain ⟨hresent, hcnt, -⟩ := h.stored p hp
  obtain heq | ⟨node', heq, -, -⟩ | ⟨hlast, heq⟩ :=
    dispatched_default hcheck (h.enabled (List.ne_nil_of_mem hp)) hcnt
  · rw [heq] at hdropped
    cases hdropped
  · rw [heq] at hdropped
    cases hdropped
  · rw [heq, hresent, hlast]
    rfl

end

theorem RetransLedger.Inv.dispatch {env : RetransEnv} (hcheck : env.check = coapEndpointRetransDefaultCheckFunc) :
    (ledgerStep l (.dispatch env)).Inv := by
  unfold ledgerStep opStep coapEndpointRetransDispatch
  dsimp only
  split_ifs
  · exact h
  -- A node that is left after the call has the number of one that was there before it.
  have hkept : ∀ p ∈ l.nodes.filterMap (fun p => (p.2.dispatched env l.retrans.enabled).2.map (p.1, ·)),
      ∃ q ∈ l.nodes, q.1 = p.1 ∧ (q.2.dispatched env l.retrans.enabled).2 = some p.2 := fun p hp => by
    obtain ⟨q, hq, hsome⟩ := List.mem_filterMap.mp hp
    obtain ⟨node, hnode, rfl⟩ := Option.map_eq_some_iff.mp hsome
    exact ⟨q, hq, rfl, hnode⟩
  have hsent : ∀ p ∈ l.nodes, _ := fun p hp =>
    countP_key h.distinct hp fun p => (p.2.dispatched env l.retrans.enabled).1
  have hfreed : ∀ p ∈ l.nodes, _ := fun p hp =>
    countP_key h.distinct hp fun p => (p.2.dispatched env l.retrans.enabled).2.isNone
  have hother : ∀ i, i ∉ l.nodes.map Prod.fst → _ := fun i hi => And.intro
    (countP_key_of_notMem hi fun p => (p.2.dispatched env l.retrans.enabled).1)
    (countP_key_of_notMem hi fun p => (p.2.dispatched env l.retrans.enabled).2.isNone)
  refine ⟨⟨?_, fun p hp => ?_, fun i hi hgone => ?_⟩, ?_, fun p hp => ?_, fun i hi => ?_, fun hne => h.enabled ?_⟩
  · dsimp only
    rw [retransDispatch_kept, ← h.nodes, List.map_filterMap, List.filterMap_map]
    congr 1
    funext p
    rw [Option.map_map, Function.comp_apply]
    exact Option.map_id'
  · obtain ⟨q, hq, hkey, hsome⟩ := hkept p hp
    obtain ⟨hresent, hcnt⟩ := h.dispatch_kept hcheck hq hsome
    dsimp only
    rw [← hkey, hsent q hq, hfreed q hq, hsome, hresent, (h.stored q hq).2.2]
    exact ⟨rfl, hcnt, rfl⟩
  · dsimp only at hi hgone ⊢
    by_cases hmem : i ∈ l.nodes.map Prod.fst
    · obtain ⟨p, hp, rfl⟩ := List.mem_map.mp hmem
      have hnone : (p.2.dispatched env l.retrans.enabled).2 = none := by
        rw [Option.eq_none_iff_forall_ne_some]
        intro node hnode
        exact hgone (List.mem_map.mpr ⟨(p.1, node), List.mem_filterMap.mpr ⟨p, hp, by rw [hnode]; rfl⟩, rfl⟩)
      rw [hsent p hp, hfreed p hp, h.dispatch_dropped hcheck hp hnone, hnone, (h.stored p hp).2.2]
      exact ⟨rfl, rfl⟩
    · rw [(hother i hmem).1, (hother i hmem).2]
      exact h.gone i hi hmem
  · refine h.distinct.sublist (filterMap_keys_sublist (fun p q hsome => ?_) l.nodes)
    obtain ⟨node, -, rfl⟩ := Option.map_eq_some_iff.mp hsome
    rfl
  · obtain ⟨q, hq, hkey, -⟩ := hkept p hp
    rw [← hkey]
    exact h.numbered q hq
  · dsimp only at hi ⊢
    have hnot : i ∉ l.nodes.map Prod.fst := fun hmem => by
      obtain ⟨p, hp, rfl⟩ := List.mem_map.mp hmem
      exact absurd (h.numbered p hp) (Nat.not_lt.mpr hi)
    rw [(hother i hnot).1, (hother i hnot).2]
    exact h.ahead i hi
  · intro hnil
    exact hne (by dsimp only; rw [hnil]; rfl)

theorem RetransLedger.Inv.step {op : RetransOp} (hop : op.Default) : (ledgerStep l op).Inv := by
  cases op with
  | enable lock maxBufSize => exact h.enable lock maxBufSize
  | add env sent pkt raw addr => exact h.add env sent pkt raw addr
  | check cur => exact h.check cur
  | dispatch env => exact h.dispatch hop

end

theorem RetransLedger.inv_new : RetransLedger.new.Inv where
  nodes := rfl
  stored := fun _ hp => absurd hp List.not_mem_nil
  gone := fun _ hi => absurd hi (Nat.not_lt_zero _)
  distinct := List.nodup_nil
  numbered := fun _ hp => absurd hp List.not_mem_nil
  ahead := fun _ _ => ⟨rfl, rfl⟩
  enabled := fun hne => absurd rfl hne

theorem run_ledgerStep_retrans (l : RetransLedger) (ops : List RetransOp) :
    (run ledgerStep l ops).retrans = run opStep l.retrans ops := by
  induction ops generalizing l with
  | nil => rfl
  | cons op ops ih =>
    rw [run_cons, run_cons, ih]
    congr 1
    cases op with
    | enable lock maxBufSize => rfl
    | add env sent pkt raw addr =>
      unfold ledgerStep
      dsimp only
      split <;> rfl
    | check cur =>
      unfold ledgerStep
      dsimp only
      split_ifs <;> rfl
    | dispatch env =>
      unfold ledgerStep
      dsimp only
      split_ifs <;> rfl

theorem run_settled (ops : List RetransOp) (hops : ∀ op ∈ ops, op.Default) :
    (run ledgerStep .new ops).Settled := by
  have hrun : (run ledgerStep .new ops).Inv :=
    run_invariant (fun l op (hop : op.Default) (h : l.Inv) => h.step hop)
      (along_of_forall (fun op hop _ => hops op hop) _) RetransLedger.inv_new
  exact hrun.toSettled

/-! ## All calls -/

/-- The sum of the sizes and the bound hold along the calls, and with the default check every packet that was added is
stored, sent again less than five times and not freed, or was sent again five times and freed once. -/
structure AccountsKept (ops : List RetransOp) : Prop where
  accounted : Along opStep OpAccounted .new ops
  settled : (∀ op ∈ ops, op.Default) →
    (run ledgerStep .new ops).Settled ∧ (run ledgerStep .new ops).retrans = run opStep .new ops

/-- The accounts are kept exactly if no packet is added while the stored ones are above the bound. -/
theorem accountsKept_iff (ops : List RetransOp) : AccountsKept ops ↔ Along opStep WithinBound .new ops := by
  constructor
  · intro h
    exact (along_accounted_iff ops).mp h.accounted
  · intro h
    exact ⟨(along_accounted_iff ops).mpr h, fun hops => ⟨run_settled ops hops, run_ledgerStep_retrans .new ops⟩⟩

def keptRaw : RawPacket := ⟨List.replicate 8 0, by decide⟩

/-- The second packet is larger than the bound that is then in force. -/
def reenabledOps : List RetransOp :=
  let env : RetransEnv := ⟨true, true, 0, coapEndpointRetransDefaultCheckFunc⟩
  let add : RetransOp := .add env ⟨⟨0, [], ⟨0, 0⟩⟩, false, []⟩ .init keptRaw ⟨0, 0⟩
  [.enable true 10, add, .enable true 4, add]

theorem reenabled_not_accountsKept : ¬ AccountsKept reenabledOps := by
  intro h
  have hbound : Along opStep WithinBound .new reenabledOps := (along_accounted_iff reenabledOps).mp h.accounted
  have hadds : Adds (run opStep .new (reenabledOps.take 3)) (reenabledOps.get ⟨3, by decide⟩) := by
    unfold Adds
    decide
  have hlast := hbound.2.2.2.1 hadds
  revert hlast
  decide

end IotConnect.Endpoint
