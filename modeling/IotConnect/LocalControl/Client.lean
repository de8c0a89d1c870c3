import IotConnect.Common.HashMap
import IotConnect.Common.Hex
import IotConnect.Common.Utils

/-! # The clients of local control (`local_ctl_cli_mngr.c`, `security_sess_key.c`)

The table of the clients that have negotiated a session, and how a client gets into it. The clock, the random
numbers, the allocations and the device service are inputs, the key derivation is a parameter. -/
namespace IotConnect.LocalControl
open Bytes
set_option autoImplicit false

def puuidMaxStrLen : ℕ := 40
def localControlSessIdLen : ℕ := 16
def localControlSessIdStrLen : ℕ := 32
def sessTransKeyLen : ℕ := 16
def sessAuthKeyLen : ℕ := 32

structure LocalControlClient where
  /-- `LOCAL_CTL_CLI_BIT_SESS_ACTIVE` of `bitMap`. -/
  active : Bool
  createTime : UInt32
  expireTime : UInt32
  sessId : Block localControlSessIdStrLen
  transKey : List UInt8
  authKey : List UInt8
  recvSeq : UInt32
  puuid : List UInt8
  addr : UInt32

def ClientMap : Type :=
  { m : HashMap LocalControlClient // ∀ node ∈ m.nodes, node.key = node.value.sessId.val }

structure LocalControlContext where
  maxClientNum : ℕ
  clientExpireTime : UInt32
  curClientNum : ℕ
  clientMap : Option ClientMap

namespace ClientMap

def clients (m : ClientMap) : List LocalControlClient := m.val.nodes.map HashNode.value

def remove (m : ClientMap) (key : List UInt8) : Except IotcErr ClientMap :=
  match h : utilsHashMapRemove m.val key with
  | .error ret => .error ret
  | .ok m' => .ok ⟨m', fun node hnode => m.property node (mem_utilsHashMapRemove h hnode)⟩

def insert (malloc : Bool) (m : ClientMap) (client : LocalControlClient) : Except IotcErr ClientMap :=
  match h : utilsHashMapInsert malloc m.val client.sessId.val client with
  | .error ret => .error ret
  | .ok m' => .ok ⟨m', by
      intro node hnode
      rcases mem_utilsHashMapInsert h hnode with rfl | hnode
      · rfl
      · exact m.property node hnode⟩

def mapClient (f : LocalControlClient → LocalControlClient) (hf : ∀ client, (f client).sessId = client.sessId)
    (m : ClientMap) : ClientMap :=
  ⟨m.val.mapValue f, by
    intro node hnode
    obtain ⟨node', hnode', rfl⟩ := HashMap.mem_mapValue hnode
    rw [hf]
    exact m.property node' hnode'⟩

theorem sessId_ne_nil (client : LocalControlClient) : client.sessId.val ≠ [] := by
  intro h
  have hlen := client.sessId.property
  rw [h] at hlen
  cases hlen

variable {m : ClientMap} {client : LocalControlClient}

theorem remove_of_mem (h : client ∈ m.clients) : ∃ m', m.remove client.sessId.val = .ok m' := by
  obtain ⟨node, hnode, rfl⟩ := List.mem_map.mp h
  have hkey := m.property node hnode
  have hne : node.key ≠ [] := hkey ▸ sessId_ne_nil node.value
  obtain ⟨m', hm'⟩ := utilsHashMapRemove_of_mem hnode hne
  rw [hkey] at hm'
  rw [remove]
  split
  case h_1 heq =>
    rw [hm'] at heq
    cases heq
  case h_2 heq => exact ⟨_, rfl⟩

theorem insert_isOk (malloc : Bool) (m : ClientMap) (client : LocalControlClient) :
    (∃ m', m.insert malloc client = .ok m') ↔ malloc = true := by
  rw [← utilsHashMapInsert_isOk malloc m.val client (sessId_ne_nil client), insert]
  split
  case h_1 heq =>
    rw [heq]
    exact iff_of_false nofun nofun
  case h_2 heq => exact iff_of_true ⟨_, rfl⟩ ⟨_, heq⟩

/-! The contents, in terms of the clients. -/

theorem mem_clients : client ∈ m.clients ↔ ⟨client.sessId.val, client⟩ ∈ m.val.nodes := by
  constructor
  · intro h
    obtain ⟨node, hnode, rfl⟩ := List.mem_map.mp h
    rw [← m.property node hnode]
    exact hnode
  · exact List.mem_map_of_mem

theorem eq_of_sessId {other : LocalControlClient} (hc : client ∈ m.clients)
    (ho : other ∈ m.clients) (h : client.sessId = other.sessId) : client = other := by
  have hkey : client.sessId.val = other.sessId.val := congrArg Subtype.val h
  exact congrArg HashNode.value (HashMap.eq_of_key (mem_clients.mp hc) (mem_clients.mp ho) hkey)

variable {m' : ClientMap}

end ClientMap

/-! ## Looking up a client -/

inductive ClientIdType
  | sessId
  | puuid

/-- The test of `ClientMapTraversalFindPuuid`. -/
def samePuuid (puuid : List UInt8) (client : LocalControlClient) : Bool :=
  client.puuid ≠ [] ∧ puuid.length = client.puuid.length ∧ cString puuid = cString client.puuid

def getLocalControlClient (ctx : LocalControlContext) (type : ClientIdType) (id : List UInt8) :
    Except IotcErr (Option LocalControlClient) :=
  if id = [] then .error ⟨.errParamInvalid, IotcRet.errParamInvalid_ne_ok⟩
  else
    match ctx.clientMap with
    | none => .error ⟨.localCtlErrInvalidClientMap, by decide⟩
    | some m =>
      if ctx.curClientNum = 0 then .ok none
      else
        match type with
        | .sessId => .ok (utilsHashMapGetValue m.val id)
        | .puuid => .ok (m.clients.find? (samePuuid id))

/-! ## A new client -/

/-- `sendSeq`, which nothing reads, is left out. -/
structure LocalClientBuildParam where
  sn1 : List UInt8
  sn2 : List UInt8
  puuid : List UInt8
  addr : UInt32

structure ClientEnv where
  /-- The allocations for the client, its `puuid`, its key context and its node in the map. -/
  mallocClient : Bool
  strDup : Bool
  mallocKey : Bool
  mallocNode : Bool
  createTime : UInt32
  curTime : UInt32
  recvSeq : UInt32
  sessId : Block localControlSessIdLen
  /-- `DevSvcProxyGetAuthInfo`, when it succeeds and finds something. -/
  authCode : Option (List UInt8)
  /-- Whether `IotcPkcs5Pbkdf2Hmac` succeeds for the two keys. -/
  transKdf : Bool
  authKdf : Bool

-- `K len` is `IotcPkcs5Pbkdf2Hmac` with one round and a key of `len` bytes
variable (K : (len : ℕ) → (password salt : List UInt8) → List UInt8)

def localControlSessKeyCreate (env : ClientEnv) (param : LocalClientBuildParam) : Option (List UInt8 × List UInt8) :=
  if env.mallocKey = false then none
  else
    match env.authCode with
    | none => none
    | some authCode =>
      if env.transKdf = false ∨ env.authKdf = false then none
      else
        let transKey := K sessTransKeyLen authCode (param.sn1 ++ param.sn2)
        some (transKey, K sessAuthKeyLen transKey (param.sn1 ++ param.sn2))

def utilsStrDupWithLen (malloc : Bool) (str : List UInt8) : Option (List UInt8) :=
  if malloc = false ∨ cString str ≠ str then none else some str

def sessIdText (sessId : Block localControlSessIdLen) : Block localControlSessIdStrLen :=
  ⟨hexText sessId.val, by rw [hexText_length, sessId.property]; rfl⟩

def localControlClientNew (env : ClientEnv) (ctx : LocalControlContext) (param : LocalClientBuildParam) :
    Option LocalControlClient :=
  if env.mallocClient = false then none
  else
    match utilsStrDupWithLen env.strDup param.puuid, localControlSessKeyCreate K env param with
    | some puuid, some (transKey, authKey) => some {
        active := false
        createTime := env.createTime
        expireTime := ctx.clientExpireTime
        sessId := sessIdText env.sessId
        transKey := transKey
        authKey := authKey
        recvSeq := env.recvSeq % 0xFFFF
        puuid := puuid
        addr := param.addr }
    | _, _ => none

/-! ## Making room -/

def getEarliestClientSessId (curTime : UInt32) (acc : Option LocalControlClient × UInt32)
    (client : LocalControlClient) : Option LocalControlClient × UInt32 :=
  let curCliLifeTime := utilsDeltaTime curTime client.createTime
  if curCliLifeTime < acc.2 then acc else (some client, curCliLifeTime)

def earliestClient (curTime : UInt32) (m : ClientMap) : Option LocalControlClient :=
  (m.clients.foldl (getEarliestClientSessId curTime) (none, 0)).1

/-- `LocalCtlClientFullProcess` on the map and `curClientNum`. -/
def localCtlClientFullProcess (curTime : UInt32) (maxClientNum : ℕ) (m : ClientMap) (curClientNum : ℕ) :
    Except IotcErr (ClientMap × ℕ) :=
  if curClientNum < maxClientNum then .ok (m, curClientNum)
  else
    match earliestClient curTime m with
    | none => .error ⟨.localCtlErrGetEarliestClient, by decide⟩
    | some client =>
      match m.remove client.sessId.val with
      | .error ret => .error ret
      | .ok m => .ok (m, utilsHashMapLength m.val)

def localControlClientInsert (env : ClientEnv) (client : LocalControlClient) (maxClientNum : ℕ) (m : ClientMap)
    (curClientNum : ℕ) : IotcRet × ClientMap × ℕ :=
  match localCtlClientFullProcess env.curTime maxClientNum m curClientNum with
  | .error ret => (ret.val, m, curClientNum)
  | .ok (m, curClientNum) =>
    match m.insert env.mallocNode client with
    | .error ret => (ret.val, m, curClientNum)
    | .ok m => (.ok, m, utilsHashMapLength m.val)

/-- `RemoveTargetPuuidClient`, which leaves `curClientNum` as it is. -/
def removeTargetPuuidClient (m : ClientMap) (puuid : List UInt8) : ClientMap :=
  match m.clients.find? (samePuuid puuid) with
  | none => m
  | some client =>
    match m.remove client.sessId.val with
    | .error _ => m
    | .ok m => m

def createLocalControlClient (env : ClientEnv) (ctx : LocalControlContext) (param : LocalClientBuildParam) :
    Except IotcErr LocalControlClient × LocalControlContext :=
  if param.puuid = [] ∨ puuidMaxStrLen < param.puuid.length then (.error ⟨.errParamInvalid, IotcRet.errParamInvalid_ne_ok⟩, ctx)
  else
    match ctx.clientMap with
    | none => (.error ⟨.localCtlErrInvalidClientMap, by decide⟩, ctx)
    | some m =>
      let m := removeTargetPuuidClient m param.puuid
      match localControlClientNew K env ctx param with
      | none => (.error ⟨.localCtlErrCreateClient, by decide⟩, { ctx with clientMap := some m })
      | some client =>
        let (ret, m, curClientNum) := localControlClientInsert env client ctx.maxClientNum m ctx.curClientNum
        let ctx := { ctx with clientMap := some m, curClientNum := curClientNum }
        (if h : ret = .ok then .ok client else .error ⟨ret, h⟩, ctx)

/-! ## When there is a new client -/

def ClientEnv.Supplies (env : ClientEnv) : Prop :=
  env.mallocClient = true ∧ env.strDup = true ∧ env.mallocKey = true ∧ env.mallocNode = true ∧
    env.authCode.isSome = true ∧ env.transKdf = true ∧ env.authKdf = true

/-- There is room for a client with this `puuid`: the counter is below its limit, or a client is left to be
removed once the one with the same `puuid` is gone. -/
def LocalControlContext.HasRoom (ctx : LocalControlContext) (puuid : List UInt8) : Prop :=
  ∃ m ∈ ctx.clientMap, ctx.curClientNum < ctx.maxClientNum ∨ (removeTargetPuuidClient m puuid).clients ≠ []

variable {K}

theorem localControlSessKeyCreate_isSome (env : ClientEnv) (param : LocalClientBuildParam) :
    (localControlSessKeyCreate K env param).isSome = true ↔
      env.mallocKey = true ∧ env.authCode.isSome = true ∧ env.transKdf = true ∧ env.authKdf = true := by
  unfold localControlSessKeyCreate
  cases env.mallocKey <;> cases env.authCode <;> cases env.transKdf <;> cases env.authKdf <;> simp

theorem localControlClientNew_isSome (env : ClientEnv) (ctx : LocalControlContext) (param : LocalClientBuildParam) :
    (localControlClientNew K env ctx param).isSome = true ↔ env.mallocClient = true ∧ env.strDup = true ∧
      cString param.puuid = param.puuid ∧ env.mallocKey = true ∧ env.authCode.isSome = true ∧
        env.transKdf = true ∧ env.authKdf = true := by
  rw [← localControlSessKeyCreate_isSome (K := K) env param]
  unfold localControlClientNew utilsStrDupWithLen
  cases env.mallocClient <;> cases env.strDup <;> by_cases hstr : cString param.puuid = param.puuid <;>
    cases localControlSessKeyCreate K env param <;> simp [hstr]

variable {client : LocalControlClient}

theorem earliest_foldl (curTime : UInt32) (l : List LocalControlClient) (acc : Option LocalControlClient × UInt32) :
    (l.foldl (getEarliestClientSessId curTime) acc).1 = acc.1 ∨
      ∃ client ∈ l, (l.foldl (getEarliestClientSessId curTime) acc).1 = some client := by
  induction l generalizing acc with
  | nil => exact .inl rfl
  | cons client l ih =>
    rw [List.foldl_cons]
    rcases ih (getEarliestClientSessId curTime acc client) with h | ⟨c, hc, h⟩
    · rw [h, getEarliestClientSessId]
      split_ifs
      · exact .inl rfl
      · exact .inr ⟨client, List.mem_cons_self, rfl⟩
    · exact .inr ⟨c, List.mem_cons_of_mem _ hc, h⟩

theorem earliest_foldl_isSome (curTime : UInt32) (l : List LocalControlClient)
    (acc : Option LocalControlClient × UInt32) (h : acc.1.isSome = true) :
    (l.foldl (getEarliestClientSessId curTime) acc).1.isSome = true := by
  rcases earliest_foldl curTime l acc with heq | ⟨client, -, heq⟩
  · rwa [heq]
  · rw [heq]
    rfl

theorem earliestClient_eq_none (curTime : UInt32) (m : ClientMap) :
    earliestClient curTime m = none ↔ m.clients = [] := by
  unfold earliestClient
  cases hm : m.clients with
  | nil => simp
  | cons client l =>
    have hfirst : getEarliestClientSessId curTime (none, 0) client =
        (some client, utilsDeltaTime curTime client.createTime) := by
      rw [getEarliestClientSessId, if_neg (UInt32.not_lt_zero)]
    have hsome := earliest_foldl_isSome curTime l (some client, utilsDeltaTime curTime client.createTime) rfl
    rw [List.foldl_cons, hfirst]
    simp only [reduceCtorEq, iff_false]
    intro h
    rw [h] at hsome
    cases hsome

theorem earliestClient_mem {curTime : UInt32} {m : ClientMap}
    (h : earliestClient curTime m = some client) : client ∈ m.clients := by
  unfold earliestClient at h
  rcases earliest_foldl curTime m.clients (none, 0) with heq | ⟨c, hc, heq⟩
  · rw [heq] at h
    cases h
  · rw [heq] at h
    cases h
    exact hc

theorem localCtlClientFullProcess_isOk (curTime : UInt32) (maxClientNum : ℕ) (m : ClientMap) (curClientNum : ℕ) :
    (∃ r, localCtlClientFullProcess curTime maxClientNum m curClientNum = .ok r) ↔
      curClientNum < maxClientNum ∨ m.clients ≠ [] := by
  unfold localCtlClientFullProcess
  by_cases hlt : curClientNum < maxClientNum
  · simp [hlt]
  rw [if_neg hlt]
  cases hearliest : earliestClient curTime m with
  | none => simp [hlt, (earliestClient_eq_none curTime m).mp hearliest]
  | some client =>
    obtain ⟨m', hm'⟩ := ClientMap.remove_of_mem (earliestClient_mem hearliest)
    have hne : m.clients ≠ [] := List.ne_nil_of_mem (earliestClient_mem hearliest)
    simp [hm', hne]

theorem localControlClientInsert_ok (env : ClientEnv) (client : LocalControlClient) (maxClientNum : ℕ)
    (m : ClientMap) (curClientNum : ℕ) : (localControlClientInsert env client maxClientNum m curClientNum).1 = .ok ↔
      env.mallocNode = true ∧ (curClientNum < maxClientNum ∨ m.clients ≠ []) := by
  rw [← localCtlClientFullProcess_isOk env.curTime]
  unfold localControlClientInsert
  cases hfull : localCtlClientFullProcess env.curTime maxClientNum m curClientNum with
  | error ret => simp [ret.property]
  | ok r =>
    obtain ⟨m', n⟩ := r
    rw [← ClientMap.insert_isOk env.mallocNode m' client]
    cases hinsert : m'.insert env.mallocNode client with
    | error ret => simp [hinsert, ret.property]
    | ok m'' => simp [hinsert]

theorem createLocalControlClient_isOk (env : ClientEnv) (ctx : LocalControlContext) (param : LocalClientBuildParam) :
    (∃ client, (createLocalControlClient K env ctx param).1 = .ok client) ↔ env.Supplies ∧
      param.puuid ≠ [] ∧ param.puuid.length ≤ puuidMaxStrLen ∧ cString param.puuid = param.puuid ∧
        ctx.HasRoom param.puuid := by
  unfold createLocalControlClient ClientEnv.Supplies LocalControlContext.HasRoom
  by_cases hparam : param.puuid = [] ∨ puuidMaxStrLen < param.puuid.length
  · rw [if_pos hparam]
    simp only [reduceCtorEq, exists_false, false_iff]
    rintro ⟨-, hne, hle, -⟩
    exact hparam.elim hne (Nat.not_lt.mpr hle)
  rw [if_neg hparam]
  cases hmap : ctx.clientMap with
  | none => simp
  | some m =>
    have hnew := localControlClientNew_isSome (K := K) env ctx param
    dsimp only
    cases hclient : localControlClientNew K env ctx param with
    | none =>
      rw [hclient] at hnew
      simp only [reduceCtorEq, exists_false, false_iff]
      rintro ⟨⟨hc, hs, hk, -, hrest⟩, -, -, hstr, -⟩
      exact Bool.false_ne_true (hnew.mpr ⟨hc, hs, hstr, hk, hrest⟩)
    | some client =>
      rw [hclient] at hnew
      obtain ⟨hc, hs, hstr, hk, ha, ht, hau⟩ := hnew.mp rfl
      have hinsert := localControlClientInsert_ok env client ctx.maxClientNum
        (removeTargetPuuidClient m param.puuid) ctx.curClientNum
      obtain ⟨hne, hle⟩ := not_or.mp hparam
      simp only [hc, hs, hstr, hk, ha, ht, hau, hne, Nat.not_lt.mp hle, true_and, and_true, ne_eq,
        not_false_eq_true, Option.mem_def, Option.some.injEq, exists_eq_left']
      split_ifs with hret
      · exact iff_of_true ⟨client, rfl⟩ (hinsert.mp hret)
      · exact iff_of_false nofun fun h => hret (hinsert.mpr h)

def LocalControlContext.clients (ctx : LocalControlContext) : List LocalControlClient :=
  match ctx.clientMap with
  | none => []
  | some m => m.clients

end IotConnect.LocalControl
