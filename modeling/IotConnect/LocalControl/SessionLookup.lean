import IotConnect.LocalControl.Authentication

/-! # The lookup of a session (`LocalCtlSessCoapRecvPreProcess`, `UtilsHashMapGetValue`)

The id of a session is turned into text in a buffer that it may not fit, and twice its length is given to the map
as the length of the key. The places of the key that the map reads are recorded beside the lookup. -/
namespace IotConnect.LocalControl
open Bytes Coap Endpoint Memory Transport
set_option autoImplicit false

/-! ## What the map reads of a key -/

section Reads
variable {β : Type}

/-- The places that the loop of `Hash` reads, the last four. -/
def hashReads (keyLen : ℕ) : List ℕ := (List.range keyLen).drop (keyLen - 4)

/-- The places that `memcmp` is given, for each node with a key of this length up to the one that is found. -/
def compareReads (key : List UInt8) : List (HashNode β) → List ℕ
  | [] => []
  | node :: nodes =>
    if node.key.length = key.length then
      List.range key.length ++ (if node.key = key then [] else compareReads key nodes)
    else compareReads key nodes

def getValueReads (m : HashMap β) (key : List UInt8) : List ℕ :=
  if key = [] then [] else hashReads key.length ++ compareReads key (m.bucket key)

variable {key : List UInt8} {i n : ℕ}

theorem lt_of_mem_hashReads (h : i ∈ hashReads n) : i < n := List.mem_range.mp (List.mem_of_mem_drop h)

theorem pred_mem_hashReads (h : 0 < n) : n - 1 ∈ hashReads n := by
  have hlast : (List.range n).drop (n - 4) ≠ [] := by
    rw [ne_eq, List.drop_eq_nil_iff, List.length_range]
    omega
  have hmem := List.getLast_mem hlast
  rwa [List.getLast_drop, List.getLast_range] at hmem

theorem lt_of_mem_compareReads {nodes : List (HashNode β)} (h : i ∈ compareReads key nodes) : i < key.length := by
  induction nodes with
  | nil => exact absurd h List.not_mem_nil
  | cons node nodes ih =>
    rw [compareReads] at h
    by_cases hlen : node.key.length = key.length
    · rw [if_pos hlen] at h
      rcases List.mem_append.mp h with h | h
      · exact List.mem_range.mp h
      · by_cases hkey : node.key = key
        · rw [if_pos hkey] at h
          exact absurd h List.not_mem_nil
        · rw [if_neg hkey] at h
          exact ih h
    · rw [if_neg hlen] at h
      exact ih h

theorem lt_of_mem_getValueReads {m : HashMap β} (h : i ∈ getValueReads m key) : i < key.length := by
  unfold getValueReads at h
  by_cases hkey : key = []
  · rw [if_pos hkey] at h
    exact absurd h List.not_mem_nil
  · rw [if_neg hkey] at h
    rcases List.mem_append.mp h with h | h
    · exact lt_of_mem_hashReads h
    · exact lt_of_mem_compareReads h

theorem pred_mem_getValueReads (m : HashMap β) (hkey : key ≠ []) : key.length - 1 ∈ getValueReads m key := by
  rw [getValueReads, if_neg hkey]
  exact List.mem_append_left _ (pred_mem_hashReads (List.length_pos_iff.mpr hkey))

end Reads

/-! ## What is meant -/

/-- What `GetLocalControlClient` reads of a session id. -/
def clientReads (ctx : LocalControlContext) (key : List UInt8) : List ℕ :=
  match ctx.clientMap with
  | none => []
  | some m => if ctx.curClientNum = 0 then [] else getValueReads m.val key

/-- The text of `value` in `sessIdStr`, if it fits. -/
def hexifiedId (value : List UInt8) : List UInt8 := (utilsHexify value (2 * localControlSessIdLen + 1)).getD []

/-- The packet is not exempt and has `value` as its session id. -/
structure LooksUp (packet : CoapPacket) (buf : CoapBuffer) (value : List UInt8) : Prop where
  check : localSessMsgCheck buf = true
  protect : coapUriWhiteListMatch packet (bufferRaw buf) localCtlWhiteList = false
  option : coapSingleOption packet (bufferRaw buf) coapOptionTypeSessionId = some value

variable (env : SessEnv) (ctx : LocalControlContext) (packet : CoapPacket) (buf : CoapBuffer)

def selectedClient : Option LocalControlClient :=
  (localCtlSessCoapRecvPreProcess env ⟨⟨packet, false, none⟩, buf, ctx, none⟩).2.msg.client

/-- A client is selected by its binary id alone, and nothing but the text of the id is read. -/
structure LookupExact : Prop where
  selects : ∀ client, selectedClient env ctx packet buf = some client ↔
    ∃ value, LooksUp packet buf value ∧ value.length = localControlSessIdLen ∧ KnownClient ctx value client
  reads : ∀ value, LooksUp packet buf value →
    ∀ i ∈ clientReads ctx (sessIdKey env value), i < (hexifiedId value).length

/-- A lookup that gets to the map has an id that fits, and a counter of zero is that of a table without this id. -/
structure LookupFits (value : List UInt8) : Prop where
  fits : ctx.clientMap.isSome = true → ctx.curClientNum ≠ 0 → value.length ≤ localControlSessIdLen
  counted : ctx.curClientNum = 0 → ∀ client, ¬ KnownClient ctx value client

/-! ## The selection -/

variable {env ctx packet buf} {value : List UInt8} {client : LocalControlClient}

theorem KnownClient.length_eq (h : KnownClient ctx value client) : value.length = localControlSessIdLen := by
  obtain ⟨m, -, -, hid⟩ := h
  have h32 := hexText_length value
  rw [← hid, client.sessId.property] at h32
  exact Nat.eq_of_mul_eq_mul_left (by decide) h32.symm

theorem KnownClient.unique {client' : LocalControlClient} (h : KnownClient ctx value client)
    (h' : KnownClient ctx value client') : client = client' := by
  obtain ⟨m, hm, hmem, hid⟩ := h
  obtain ⟨m', hm', hmem', hid'⟩ := h'
  obtain rfl : m = m' := Option.some.inj ((Option.mem_def.mp hm).symm.trans hm')
  exact ClientMap.eq_of_sessId hmem hmem' (Subtype.ext (hid.trans hid'.symm))

theorem getLocalControlClient_sessId_iff :
    getLocalControlClient ctx .sessId (sessIdKey env value) = .ok (some client) ↔
      ctx.curClientNum ≠ 0 ∧ KnownClient ctx value client := by
  constructor
  · exact knownClient_of_get
  · rintro ⟨hnum, hknown⟩
    obtain ⟨client', hget⟩ : ∃ client', getLocalControlClient ctx .sessId (sessIdKey env value) = .ok (some client') :=
      get_of_knownClient hnum hknown
    rw [hget, (knownClient_of_get hget).2.unique hknown]

theorem selectedClient_iff : selectedClient env ctx packet buf = some client ↔
    ∃ value, LooksUp packet buf value ∧ ctx.curClientNum ≠ 0 ∧ KnownClient ctx value client := by
  unfold selectedClient
  by_cases hcheck : localSessMsgCheck buf = true
  swap
  · rw [localCtlSessCoapRecvPreProcess, if_pos (by simpa using hcheck)]
    refine iff_of_false (fun h => by cases h) ?_
    rintro ⟨_, h, _⟩
    exact hcheck h.check
  by_cases hwhite : coapUriWhiteListMatch packet (bufferRaw buf) localCtlWhiteList = true
  · rw [localCtlSessCoapRecvPreProcess, if_neg (by simp [hcheck]), if_pos hwhite]
    refine iff_of_false (fun h => by cases h) ?_
    rintro ⟨_, h, _⟩
    rw [h.protect] at hwhite
    cases hwhite
  rw [Bool.not_eq_true] at hwhite
  rcases recvPreProcess_client env ⟨⟨packet, false, none⟩, buf, ctx, none⟩ hcheck hwhite with
    ⟨hret, hno⟩ | ⟨value, found, hvalue, hget, hret⟩
  · rw [hret]
    refine iff_of_false (fun h => by cases h) ?_
    rintro ⟨value, h, hknown⟩
    exact hno value client h.option (getLocalControlClient_sessId_iff.mpr hknown)
  · rw [hret]
    have hfound := getLocalControlClient_sessId_iff.mp hget
    constructor
    · rintro ⟨⟩
      exact ⟨value, ⟨hcheck, hwhite, hvalue⟩, hfound⟩
    · rintro ⟨value', h, -, hknown⟩
      cases hvalue.symm.trans h.option
      exact congrArg some (hfound.2.unique hknown)

/-! ## The reads -/

theorem hexifiedId_length (h : value.length ≤ localControlSessIdLen) : (hexifiedId value).length = 2 * value.length := by
  unfold hexifiedId
  by_cases hnil : value = []
  · rw [hnil]
    rfl
  · rw [utilsHexify_eq hnil (by omega), Option.getD_some, hexText_length]

theorem hexifiedId_of_long (h : localControlSessIdLen < value.length) : hexifiedId value = [] := by
  have hfull : (2 * localControlSessIdLen + 1) / 2 < value.length := by omega
  have hpos : ¬ (value.length = 0 ∨ 2 * localControlSessIdLen + 1 = 0) := by omega
  rw [hexifiedId, utilsHexify, if_neg hpos, if_pos hfull]
  rfl

theorem clientReads_iff : (∀ i ∈ clientReads ctx (sessIdKey env value), i < (hexifiedId value).length) ↔
    (ctx.clientMap.isSome = true → ctx.curClientNum ≠ 0 → value.length ≤ localControlSessIdLen) := by
  unfold clientReads
  cases ctx.clientMap with
  | none => exact iff_of_true (fun _ h => absurd h List.not_mem_nil) fun h => by cases h
  | some m =>
    dsimp only
    by_cases hnum : ctx.curClientNum = 0
    · rw [if_pos hnum]
      exact iff_of_true (fun _ h => absurd h List.not_mem_nil) fun _ h => absurd hnum h
    rw [if_neg hnum]
    constructor
    · intro hreads _ _
      by_contra hlong
      have hkey : sessIdKey env value ≠ [] := by
        refine List.ne_nil_of_length_pos ?_
        rw [sessIdKey_length]
        omega
      have hlast := hreads _ (pred_mem_getValueReads m.val hkey)
      rw [hexifiedId_of_long (Nat.lt_of_not_le hlong)] at hlast
      exact absurd hlast (Nat.not_lt_zero _)
    · intro hfits i hi
      rw [hexifiedId_length (hfits rfl hnum), ← sessIdKey_length env]
      exact lt_of_mem_getValueReads hi

/-- For every packet, table and content of the stack: the lookup goes by the id alone and reads nothing else exactly
when each id that gets to the map is at most sixteen bytes long. -/
theorem lookupExact_iff (env : SessEnv) (ctx : LocalControlContext) (packet : CoapPacket) (buf : CoapBuffer) :
    LookupExact env ctx packet buf ↔ ∀ value, LooksUp packet buf value → LookupFits ctx value := by
  constructor
  · intro h value hlooks
    refine ⟨clientReads_iff.mp (h.reads value hlooks), fun hzero client hknown => ?_⟩
    have hselected := (h.selects client).mpr ⟨value, hlooks, hknown.length_eq, hknown⟩
    obtain ⟨_, -, hnum, -⟩ := selectedClient_iff.mp hselected
    exact hnum hzero
  · intro h
    refine ⟨fun client => ?_, fun value hlooks => clientReads_iff.mpr (h value hlooks).fits⟩
    rw [selectedClient_iff]
    constructor
    · rintro ⟨value, hlooks, -, hknown⟩
      exact ⟨value, hlooks, hknown.length_eq, hknown⟩
    · rintro ⟨value, hlooks, -, hknown⟩
      exact ⟨value, hlooks, fun hzero => (h value hlooks).counted hzero client hknown, hknown⟩

/-- A session id of seventeen bytes. -/
def sampleLongId : CoapPacket :=
  { CoapPacket.init with opNum := 1, options := fun _ => ⟨coapOptionTypeSessionId, ⟨some 0, 17⟩⟩ }

theorem long_id_read_outside : ¬ LookupExact sampleSessEnv sampleClients sampleLongId ⟨fun _ => 0, 64, 17⟩ := by
  intro h
  have hlooks : LooksUp sampleLongId ⟨fun _ => 0, 64, 17⟩ (List.replicate 17 0) :=
    ⟨by decide, by decide, by decide⟩
  have hlast := h.reads _ hlooks 33 (by decide)
  exact absurd hlast (by decide)

end IotConnect.LocalControl
