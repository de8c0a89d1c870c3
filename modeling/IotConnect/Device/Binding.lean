import IotConnect.Device.Config
import IotConnect.Store.RoundTrip

/-! # Binding

What the getters return after a record could not be saved. A record is put into memory item by item before it is
committed, and nothing takes it back when the commit fails. The memory is also the buffer of the encrypted item that is
committed: what `SecurityStoreCommit` reads back is decrypted in it, so that a commit may leave zeros or another record
there (`readBack`). -/
namespace IotConnect.Device
open Bytes Memory Store
set_option autoImplicit false

/-! ## The commit -/

def deviceConfigKeyChar : String := "dev_data"

/-- `sizeof(StoreDataInfoV1)` -/
def storeDataInfoLen (cloud : Bool) : ℕ := if cloud then 512 else 256

section Commit
variable {β : Type} (env : StoreEnv) (backend : Backend β) (cloud : Bool)

/-- What the commit of an encrypted value reads back into its memory: nothing where it does not get to the decryption,
zeros where that fails, else what was decrypted. -/
def readBackValue (keyChar : String) (size : ℕ) (value : List UInt8) (kv : β) : List UInt8 :=
  match storeItemSeal env .encrypt value with
  | .error _ => []
  | .ok (header, body) =>
    let (ret, kv) := backend.onSetValue keyChar (header.bytes ++ body) kv
    if ret ≠ .ok then []
    else
      match fetch env backend keyChar size kv with
      | .blob blob =>
        match unpack env size blob with
        | some a => (openBody env .encrypt a).getD (List.replicate a.body.length 0)
        | none => []
      | _ => []

def readBack (s : Config β) : List UInt8 :=
  if env.lock = false then []
  else readBackValue env backend deviceConfigKeyChar (storeDataInfoLen cloud) (load s.mem 0 (storeDataInfoLen cloud)) s.flash

end Commit

/-! ## Atomicity -/

section
variable {β : Type}

section Save
variable (env : StoreEnv) (backend : Backend β)

end Save

/-! ## A record in JSON -/

section Json
variable (J : JsonAdapter) (env : StoreEnv) (backend : Backend β)

variable {J}

end Json

end

end IotConnect.Device
