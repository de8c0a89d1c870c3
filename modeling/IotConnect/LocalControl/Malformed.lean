import IotConnect.Cloud.Freshness
import IotConnect.LocalControl.Negotiation

/-! # Malformed negotiations (`LocalCtlCoapSessMngrHandler`, `CreateLocalCtlClient`)

A request whose `sn1` is not the digits of a whole random number should leave no trace, and a client should have
the key of the random number that it has sent. -/
namespace IotConnect.LocalControl
open Bytes Coap Cloud
set_option autoImplicit false

variable (J : JsonAdapter) (K : (len : ℕ) → (password salt : List UInt8) → List UInt8)

/-! ## What is meant -/

/-- The random number that the text spells in just so many digits. -/
def completeSn1 (text : List UInt8) : Option (List UInt8) :=
  (utilsUnhexify text sessSnLen).filter fun sn1 => sn1.length = sessSnLen

/-- One `puuid` of proper length, an object with a mode that is supported, and a whole `sn1`. -/
def WellFormed (e : SessMngrRequest) (sn1 : List UInt8) : Prop :=
  ∃ puuid reqJson text, sessMngrChecked J e = some (puuid, reqJson) ∧ puuid.length ≤ puuidMaxStrLen ∧
    sn1Hex J reqJson = some text ∧ completeSn1 text = some sn1

/-- The memory for a client and its keys is there, and so is what they are derived from. -/
def MakesClient (env : ClientEnv) (puuid : List UInt8) : Prop :=
  env.mallocClient = true ∧ env.strDup = true ∧ cString puuid = puuid ∧ env.mallocKey = true ∧
    env.authCode.isSome = true ∧ env.transKdf = true ∧ env.authKdf = true

/-- Where there is a table and the `puuid` is one, no client has it, and a client that is made gets no node although
there is room, or finds a table without clients and a limit that is reached. -/
def LeavesTable (env : ClientEnv) (ctx : LocalControlContext) (puuid : List UInt8) : Prop :=
  puuid ≠ [] → puuid.length ≤ puuidMaxStrLen → ∀ m ∈ ctx.clientMap,
    (∀ client ∈ m.clients, samePuuid puuid client = false) ∧
      (MakesClient env puuid → if ctx.curClientNum < ctx.maxClientNum then env.mallocNode = false else m.clients = [])

/-- What is decoded of `sn1` is there already, and where `sn1` can be decoded and there is a sequence number, the table
is left. -/
structure Harmless (env : SessMngrEnv) (s : LocalState) (puuid : List UInt8) (reqJson : J.Obj) (text : List UInt8) : Prop where
  sn1 : unhexifyBlock s.localCtlSn1 text = s.localCtlSn1
  client : utilsUnhexify text sessSnLen ≠ none → ∀ seq, utilsJsonGetUint J reqJson "seq" = .ok seq →
    LeavesTable env.client s.ctx puuid

/-! ## A client is made -/

variable {J K}

section Client
variable {env : ClientEnv} {ctx ctx' : LocalControlContext} {param : LocalClientBuildParam} {client : LocalControlClient}

end Client

variable {env : SessMngrEnv} {e : SessMngrRequest} {s : LocalState} {puuid text : List UInt8} {reqJson : J.Obj}
  {addr : UInt32}

end IotConnect.LocalControl
