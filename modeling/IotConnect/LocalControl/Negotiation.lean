import IotConnect.Cloud.Context
import IotConnect.Coap.Utils
import IotConnect.LocalControl.Client

/-! # Negotiating a local session (`local_ctl_coap_api.c`)

A request to the session manager makes the sender a client. The key of the local session is derived with the
salt of the cloud context as the buffer, so that what a request leaves of the cloud channel depends on how far
it gets. The random numbers and the services are inputs; a run ends where the code reads through a null
pointer. -/
namespace IotConnect.LocalControl
open Bytes Coap Cloud Trace
set_option autoImplicit false

def localModeAesGcm : UInt32 := 4

/-- The context of local control, the globals of `local_ctl_coap_api.c` and the cloud context. -/
structure LocalState where
  ctx : LocalControlContext
  localCtlSn1 : Block sessSnLen
  localCtlKey : List UInt8
  cloud : CloudContext

structure SessMngrEnv where
  client : ClientEnv
  sn2 : Block sessSnLen
  /-- Whether `IotcPkcs5Pbkdf2Hmac` succeeds for `localCtlKey`, and what it leaves there if not. -/
  kdfOk : Bool
  keyLeft : List UInt8
  /-- Whether the response can be built. -/
  respJson : Bool

/-- A request, with the message it points into and the address it is from. -/
structure SessMngrRequest where
  req : CoapPacket
  raw : CoapRaw
  addr : UInt32

/-- The members of the response besides the error code `0`. -/
structure SessMngrResp where
  sn2 : List UInt8
  sessId : List UInt8
  seq : UInt32
  modeResp : UInt32

variable (J : JsonAdapter) (K : (len : ℕ) → (password salt : List UInt8) → List UInt8)

/-! ## The handler -/

def localModeSupportCheck (reqJson : J.Obj) : Bool :=
  match utilsJsonGetUint J reqJson "modeSupport" with
  | .error _ => false
  | .ok mode => mode &&& localModeAesGcm ≠ 0

/-- The `puuid` and the object of a request that passes the checks at the start of the handler. -/
def sessMngrChecked (e : SessMngrRequest) : Option (List UInt8 × J.Obj) :=
  match coapSingleOption e.req e.raw coapOptionTypePuuid with
  | none => none
  | some puuid =>
    match iotcJsonParseWithLen J (e.raw.read e.req.payload) with
    | none => none
    | some reqJson => if localModeSupportCheck J reqJson then some (puuid, reqJson) else none

def sn1Hex (reqJson : J.Obj) : Option (List UInt8) := (J.getObj reqJson "sn1").bind J.str

def unhexifyBlock {n : ℕ} (out : Block n) (text : List UInt8) : Block n :=
  ⟨unhexifyInto text out.val, by rw [unhexifyInto_length, out.property]⟩

def createLocalCtlClient (env : SessMngrEnv) (ctx : LocalControlContext) (puuid : List UInt8) (addr : UInt32)
    (reqJson : J.Obj) : Option LocalControlClient × LocalControlContext :=
  match sn1Hex J reqJson with
  | none => (none, ctx)
  | some text =>
    if utilsUnhexify text sessSnLen = none then (none, ctx)
    else
      match utilsJsonGetUint J reqJson "seq" with
      | .error _ => (none, ctx)
      | .ok _ =>
        let sn1 := unhexifyBlock (Block.zero sessSnLen) text
        match createLocalControlClient K env.client ctx ⟨sn1.val, env.sn2.val, puuid, addr⟩ with
        | (.error _, ctx) => (none, ctx)
        | (.ok client, ctx) => (some client, ctx)

def localCtlSessKeyGen (env : SessMngrEnv) (s : LocalState) : LocalState :=
  let salt := s.localCtlSn1.val ++ env.sn2.val
  { s with
    cloud := { s.cloud with pskInfo := { s.cloud.pskInfo with salt := salt } }
    localCtlKey := if env.kdfOk then K (2 * sessSnLen) s.cloud.authCodeInfo.authCode salt else env.keyLeft }

def createSessMngrRespJson (env : SessMngrEnv) (client : LocalControlClient) : Option SessMngrResp :=
  if env.respJson then some ⟨hexText env.sn2.val, client.sessId.val, client.recvSeq, localModeAesGcm⟩ else none

def localCtlCoapSessMngrHandler (env : SessMngrEnv) (e : SessMngrRequest) (s : LocalState) :
    Option (LocalState × Option SessMngrResp) :=
  match sessMngrChecked J e with
  | none => some (s, none)
  | some (puuid, reqJson) =>
    match sn1Hex J reqJson with
    -- a request without `sn1` is only logged before `strlen` is called
    | none => none
    | some text =>
      -- the result is not looked at, and the global keeps what is not overwritten
      let s := { s with localCtlSn1 := unhexifyBlock s.localCtlSn1 text }
      match createLocalCtlClient J K env s.ctx puuid e.addr reqJson with
      | (none, ctx) => some ({ s with ctx := ctx }, none)
      | (some client, ctx) =>
        some (localCtlSessKeyGen K env { s with ctx := ctx }, createSessMngrRespJson env client)

abbrev SessMngrEvent : Type := SessMngrEnv × SessMngrRequest

def negotiationStep (s : Option LocalState) (e : SessMngrEvent) : Option LocalState :=
  s.bind fun s => (localCtlCoapSessMngrHandler J K e.1 e.2 s).map Prod.fst

/-! ## The cloud channel -/

/-- Nothing that the codec of the cloud channel reads is other than `p`, and so is nothing that it does. -/
structure SameChannel (p : PskInfo) (s : LocalState) : Prop where
  pskInfo : s.cloud.pskInfo = p
  encode : ∀ crypto build pkt buf,
    coapTcpV1Encode ⟨s.cloud.pskInfo, crypto⟩ build pkt buf = coapTcpV1Encode ⟨p, crypto⟩ build pkt buf
  decode : ∀ crypto pkt raw,
    coapTcpV1Decode ⟨s.cloud.pskInfo, crypto⟩ pkt raw = coapTcpV1Decode ⟨p, crypto⟩ pkt raw

/-- What it takes for a client: `sn1` is hexadecimal and fits, there is a sequence number, the `puuid` is a text
of proper length, and the services and the table can take another client. -/
structure Creates (env : SessMngrEnv) (ctx : LocalControlContext) (puuid : List UInt8) (reqJson : J.Obj)
    (text : List UInt8) : Prop where
  sn1 : utilsUnhexify text sessSnLen ≠ none
  seq : ∃ seq, utilsJsonGetUint J reqJson "seq" = .ok seq
  supplies : env.client.Supplies
  text : puuid ≠ [] ∧ puuid.length ≤ puuidMaxStrLen ∧ cString puuid = puuid
  room : ctx.HasRoom puuid

/-- A request that leaves the salt: it fails one of the checks, or it has an `sn1` and makes no client, or the
two random numbers are those of the salt that is there. -/
def KeepsSalt (e : SessMngrEvent) (s : LocalState) : Prop :=
  ∀ puuid reqJson, sessMngrChecked J e.2 = some (puuid, reqJson) → ∃ text, sn1Hex J reqJson = some text ∧
    (Creates J e.1 s.ctx puuid reqJson text →
      (unhexifyBlock s.localCtlSn1 text).val ++ e.1.sn2.val = s.cloud.pskInfo.salt)

variable {J K}

theorem sameChannel_iff {p : PskInfo} {s : LocalState} : SameChannel p s ↔ s.cloud.pskInfo = p := by
  constructor
  · exact SameChannel.pskInfo
  · rintro rfl
    exact ⟨rfl, fun _ _ _ _ => rfl, fun _ _ _ => rfl⟩

theorem createLocalCtlClient_isSome (env : SessMngrEnv) (ctx : LocalControlContext) (puuid : List UInt8)
    (addr : UInt32) {reqJson : J.Obj} {text : List UInt8} (htext : sn1Hex J reqJson = some text) :
    (createLocalCtlClient J K env ctx puuid addr reqJson).1.isSome = true ↔ Creates J env ctx puuid reqJson text := by
  have hcreate := createLocalControlClient_isOk (K := K) env.client ctx
    ⟨(unhexifyBlock (Block.zero sessSnLen) text).val, env.sn2.val, puuid, addr⟩
  unfold createLocalCtlClient
  rw [htext]
  dsimp only
  by_cases hsn1 : utilsUnhexify text sessSnLen = none
  · rw [if_pos hsn1]
    exact iff_of_false nofun fun h => h.sn1 hsn1
  rw [if_neg hsn1]
  cases hseq : utilsJsonGetUint J reqJson "seq" with
  | error ret =>
    refine iff_of_false nofun fun h => ?_
    obtain ⟨seq, hok⟩ := h.seq
    rw [hseq] at hok
    cases hok
  | ok seq =>
    have hiff : Creates J env ctx puuid reqJson text ↔ env.client.Supplies ∧
        puuid ≠ [] ∧ puuid.length ≤ puuidMaxStrLen ∧ cString puuid = puuid ∧ ctx.HasRoom puuid :=
      ⟨fun h => ⟨h.supplies, h.text.1, h.text.2.1, h.text.2.2, h.room⟩,
        fun ⟨hs, hne, hle, hstr, hroom⟩ => ⟨hsn1, ⟨seq, hseq⟩, hs, ⟨hne, hle, hstr⟩, hroom⟩⟩
    rw [hiff, ← hcreate]
    dsimp only
    cases createLocalControlClient K env.client ctx
      ⟨(unhexifyBlock (Block.zero sessSnLen) text).val, env.sn2.val, puuid, addr⟩ with
    | mk client ctx' => cases client <;> simp

theorem localCtlCoapSessMngrHandler_keeps (env : SessMngrEnv) (e : SessMngrRequest) (s : LocalState) :
    (∃ r ∈ localCtlCoapSessMngrHandler J K env e s, r.1.cloud.pskInfo = s.cloud.pskInfo) ↔
      KeepsSalt J (env, e) s := by
  unfold localCtlCoapSessMngrHandler KeepsSalt
  dsimp only
  cases hchecked : sessMngrChecked J e with
  | none => exact iff_of_true ⟨_, rfl, rfl⟩ nofun
  | some checked =>
    obtain ⟨puuid, reqJson⟩ := checked
    simp only [Option.some.injEq, Prod.mk.injEq, and_imp, forall_apply_eq_imp_iff, forall_eq']
    cases htext : sn1Hex J reqJson with
    | none => simp
    | some text =>
      have hsome := createLocalCtlClient_isSome (K := K) env s.ctx puuid e.addr htext
      simp only [Option.some.injEq, exists_eq_left']
      cases hclient : createLocalCtlClient J K env s.ctx puuid e.addr reqJson with
      | mk client ctx =>
        rw [hclient] at hsome
        cases client with
        | none =>
          refine iff_of_true ⟨_, rfl, rfl⟩ fun h => ?_
          cases hsome.mpr h
        | some client =>
          have hcreates := hsome.mp rfl
          simp only [hcreates, true_imp_iff, Option.mem_def, Option.some.injEq, exists_eq_left', localCtlSessKeyGen]
          constructor
          · intro h
            exact congrArg PskInfo.salt h
          · intro h
            rw [h]

theorem negotiationStep_sameChannel {p : PskInfo} {o : Option LocalState} (e : SessMngrEvent)
    (h : ∃ s ∈ o, SameChannel p s) :
    (∃ s ∈ negotiationStep J K o e, SameChannel p s) ↔ ∀ s ∈ o, KeepsSalt J e s := by
  obtain ⟨s, hs, hp⟩ := h
  cases hs
  rw [sameChannel_iff] at hp
  have hkeeps := localCtlCoapSessMngrHandler_keeps (J := J) (K := K) e.1 e.2 s
  simp only [sameChannel_iff, negotiationStep, Option.bind_some, Option.mem_def, Option.map_eq_some_iff,
    Option.some.injEq, forall_eq', ← hp]
  rw [← hkeeps]
  constructor
  · rintro ⟨_, ⟨r, hr, rfl⟩, hsame⟩
    exact ⟨r, hr, hsame⟩
  · rintro ⟨r, hr, hsame⟩
    exact ⟨r.1, ⟨r, hr, rfl⟩, hsame⟩

/-- After each request of a run the cloud channel is what it was before the first, if and only if each of
them leaves the salt in the state it arrives in. -/
theorem run_sameChannel_iff (s : LocalState) (es : List SessMngrEvent) :
    Along (negotiationStep J K) (fun o e => ∃ s' ∈ negotiationStep J K o e, SameChannel s.cloud.pskInfo s') (some s) es ↔
      Along (negotiationStep J K) (fun o e => ∀ s' ∈ o, KeepsSalt J e s') (some s) es := by
  have hkept : ∀ o e, True → (∃ s' ∈ o, SameChannel s.cloud.pskInfo s') →
      ((∃ s' ∈ negotiationStep J K o e, SameChannel s.cloud.pskInfo s') ↔ ∀ s' ∈ o, KeepsSalt J e s') :=
    fun _ e _ h => negotiationStep_sameChannel e h
  exact along_kept_iff (fun _ _ _ => trivial) hkept trivial ⟨s, rfl, sameChannel_iff.mpr rfl⟩ es

/-! ## A session is negotiated -/

/-- `{"modeSupport":4,"seq":1,"sn1":"0102030405060708"}` and a `puuid` behind it. -/
def sampleNegotiation : List UInt8 :=
  [123, 34, 109, 111, 100, 101, 83, 117, 112, 112, 111, 114, 116, 34, 58, 52, 44, 34, 115, 101, 113,
    34, 58, 49, 44, 34, 115, 110, 49, 34, 58, 34, 48, 49, 48, 50, 48, 51, 48, 52, 48, 53, 48, 54,
    48, 55, 48, 56, 34, 125] ++ [112]

def sampleNegotiationJson : JsonAdapter :=
  .ofParser fun text =>
    if text = sampleNegotiation.take 50 then
      some (.obj [(ascii "modeSupport", .num 4), (ascii "seq", .num 1), (ascii "sn1", .str (ascii "0102030405060708"))])
    else none

def sampleSessMngrEvent : SessMngrEvent where
  fst :=
    { client :=
        { mallocClient := true, strDup := true, mallocKey := true, mallocNode := true, createTime := 0, curTime := 0
          recvSeq := 0, sessId := Block.zero 16, authCode := some [1], transKdf := true, authKdf := true }
      sn2 := ⟨[9, 9, 9, 9, 9, 9, 9, 9], rfl⟩
      kdfOk := true
      keyLeft := []
      respJson := true }
  snd :=
    { req := { CoapPacket.init with
        opNum := 1
        options := fun _ => ⟨coapOptionTypePuuid, ⟨some 50, 1⟩⟩
        payload := ⟨some 0, 50⟩ }
      raw := ⟨Memory.ofList sampleNegotiation 0, 51⟩
      addr := 1 }

def sampleLocalState : LocalState where
  ctx := ⟨4, 3600, 0, some ⟨utilsHashMapCreate 4 (by decide), by simp [HashMap.nodes, utilsHashMapCreate]⟩⟩
  localCtlSn1 := Block.zero sessSnLen
  localCtlKey := []
  cloud := { CloudContext.start with pskInfo := ⟨true, false, List.replicate 32 5, List.replicate 16 6⟩ }

def saltCrypto : PskCrypto :=
  { PskCrypto.padOnly true with
    pbkdf2Hmac := fun _ salt => .ok salt
    hmacCalc := fun key _ => .ok ⟨(key ++ List.replicate 32 0).take 32, by simp [sessHmacLen]⟩ }

def sampleSent (s : LocalState) : List UInt8 :=
  let buf := (coapTcpV1Encode ⟨s.cloud.pskInfo, saltCrypto⟩ (sampleRequest 11 [1, 2, 3]) CoapPacket.init (emptyBuffer 256)).2.2
  Memory.load buf.buffer 0 buf.len

theorem negotiation_changes_channel : ∃ s s' : LocalState, ∃ e : SessMngrEvent,
    negotiationStep sampleNegotiationJson (fun _ password salt => password ++ salt) (some s) e = some s' ∧
      s'.cloud.pskInfo.salt ≠ s.cloud.pskInfo.salt ∧ sampleSent s' ≠ sampleSent s :=
  ⟨sampleLocalState,
    (negotiationStep sampleNegotiationJson (fun _ password salt => password ++ salt) (some sampleLocalState)
      sampleSessMngrEvent).getD sampleLocalState,
    sampleSessMngrEvent, by rfl, by decide, by decide⟩

end IotConnect.LocalControl
