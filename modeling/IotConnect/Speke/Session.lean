import IotConnect.Common.Hex
import IotConnect.Common.Utils
import IotConnect.Foundations.Json

/-! # The SPEKE session (`security_speke_nego_ctx.h`, `security_speke_defs.h`)

What the transports hold of a negotiation: its context while it runs, and the key of the data once it is
over. Numbers of any size are natural numbers. -/
namespace IotConnect.Speke
open Bytes
set_option autoImplicit false

def maxSaltLen : ℕ := 16
def minSaltLen : ℕ := 8
def challengeLen : ℕ := 16
def sessionKeyLen : ℕ := 16

/-- `pubKey` is released when it was sent. -/
structure NegoContext where
  salt : List UInt8
  saltLen : minSaltLen ≤ salt.length ∧ salt.length ≤ maxSaltLen
  pubKey : Option (List UInt8)
  random : ℕ
  prime : ℕ
  localChallenge : Block challengeLen
  remoteChallenge : Block challengeLen
  identityEncKey : Block sessionKeyLen
  hmacKey : Block sessionKeyLen

inductive SpekeType
  | unknown
  | client
  | server
  deriving DecidableEq

/-- `notifies` says that the callback `notifySpekeFinished` is set. -/
structure SpekeSession where
  spekeType : SpekeType
  notifies : Bool
  pinCode : List UInt8
  negoContext : Option NegoContext
  dataEncKey : Block sessionKeyLen

end IotConnect.Speke
