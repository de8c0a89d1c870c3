import IotConnect.Common.Utils

/-! # CoAP packets (`coap_codec_def.h`)

The packet to build, the packet that was built or parsed, and the buffer a packet is written to. A
pointer of a packet into its message is the offset there. Bit fields are `Fin`; lengths and
positions are natural numbers, since no message comes near the 2^32 bytes at which the code's
`uint32_t` would wrap. Only `size - len` of a buffer that is already overfull wraps, and is modelled so. -/
namespace IotConnect.Coap
open Memory
set_option autoImplicit false

def coapOptionMaxNum : ℕ := 16
def coapTokenMaxLen : ℕ := 8
def coapOptionMinLen : ℕ := 1
def coapExtendDeltaValueUint : ℕ := 12
def coapExtendDeltaValueUint8 : ℕ := 13
def coapExtendDeltaValueUint16 : ℕ := 14
def coapExtendDeltaValueUint32 : ℕ := 15
def coapDeltaUint8AddNum : ℕ := 13
def coapDeltaUint16AddNum : ℕ := 269
def coapDeltaUint32AddNum : ℕ := 65805

/-! The literals of the bit fields. -/

instance neZeroFour : NeZero 4 := ⟨by decide⟩
instance neZeroNine : NeZero 9 := ⟨by decide⟩
instance neZeroSixteen : NeZero 16 := ⟨by decide⟩

structure CoapHeader where
  ver : Fin 4
  type : Fin 4
  tkl : Fin 16
  code : UInt8
  msgId : UInt16
deriving DecidableEq

structure CoapTcpHeader where
  len : Fin 16
  exlen : ℕ
deriving DecidableEq

/-- `CoapData` inside a message: an offset, or the null pointer, and a length. -/
structure CoapData where
  data : Option ℕ
  len : ℕ
deriving DecidableEq

structure CoapOption where
  option : UInt16
  value : CoapData
deriving DecidableEq

structure CoapPacket where
  header : CoapHeader
  tcpheader : CoapTcpHeader
  token : ℕ → UInt8
  opNum : ℕ
  options : ℕ → CoapOption
  payload : CoapData

def CoapPacket.init : CoapPacket where
  header := ⟨0, 0, 0, 0, 0⟩
  tcpheader := ⟨0, 0⟩
  token := fun _ => 0
  opNum := 0
  options := fun _ => ⟨0, ⟨none, 0⟩⟩
  payload := ⟨none, 0⟩

/-- A received message. -/
structure CoapRaw where
  data : ℕ → UInt8
  len : ℕ

def CoapRaw.read (raw : CoapRaw) (d : CoapData) : List UInt8 :=
  match d.data with
  | some off => load raw.data off d.len
  | none => []

structure CoapBuffer where
  buffer : ℕ → UInt8
  size : ℕ
  len : ℕ

namespace CoapBuffer

/-- `size - len` -/
def room (buf : CoapBuffer) : ℕ := u32Sub buf.size buf.len

def push (buf : CoapBuffer) (l : List UInt8) : CoapBuffer :=
  { buf with buffer := store buf.buffer buf.len l, len := buf.len + l.length }

@[simp] theorem push_size (buf : CoapBuffer) (l : List UInt8) : (buf.push l).size = buf.size := rfl

@[simp] theorem push_len (buf : CoapBuffer) (l : List UInt8) : (buf.push l).len = buf.len + l.length := rfl

theorem push_buffer (buf : CoapBuffer) (l : List UInt8) :
    (buf.push l).buffer = store buf.buffer buf.len l := rfl

@[simp] theorem push_nil (buf : CoapBuffer) : buf.push [] = buf := by
  simp [push]

theorem push_push (buf : CoapBuffer) (a b : List UInt8) : (buf.push a).push b = buf.push (a ++ b) := by
  simp only [push, store_append, List.length_append, Nat.add_assoc]

theorem room_of_le {buf : CoapBuffer} (h : buf.len ≤ buf.size) : buf.room = buf.size - buf.len :=
  u32Sub_of_le h

/-- What was written into `buf` since its end was at `start`. -/
def since (buf : CoapBuffer) (start : ℕ) : CoapRaw :=
  ⟨fun i => buf.buffer (start + i), buf.len - start⟩

theorem since_push_len (buf : CoapBuffer) (l : List UInt8) : ((buf.push l).since buf.len).len = l.length := by
  simp [since]

theorem since_push_holds (buf : CoapBuffer) (l : List UInt8) : Holds ((buf.push l).since buf.len).data 0 l := by
  exact (load_shift _ buf.len 0 _).trans (holds_store buf.buffer buf.len l)

end CoapBuffer

/-! ## Packets to build -/

/-- `CoapData` of a packet to build: bytes, or a length behind a null pointer. -/
inductive BuildData
  | bytes (l : List UInt8)
  | null (len : ℕ)

def BuildData.len : BuildData → ℕ
  | .bytes l => l.length
  | .null n => n

def BuildData.sent : BuildData → List UInt8
  | .bytes l => l
  | .null n => List.replicate n 0

@[simp] theorem BuildData.sent_length (d : BuildData) : d.sent.length = d.len := by
  cases d <;> simp [BuildData.sent, BuildData.len]

structure BuildOption where
  option : UInt16
  value : BuildData

/-- `buildFunc` is the callback that writes the payload: the code it returns and the bytes it appends
to the buffer it is given. -/
structure CoapBuildPacket where
  header : CoapHeader
  token : ℕ → UInt8
  options : List BuildOption
  payload : Option BuildData
  buildFunc : Option (CoapBuffer → Int × List UInt8)

/-! ## Samples -/

/-- A confirmable request with a two byte token, one option and a payload. -/
def sampleRequest (option : UInt16) (payload : List UInt8) : CoapBuildPacket where
  header := ⟨0, 0, 2, 1, 0x1234⟩
  token := fun i => i.toUInt8
  options := [⟨option, .bytes [7]⟩]
  payload := some (.bytes payload)
  buildFunc := none

def emptyBuffer (size : ℕ) : CoapBuffer := ⟨fun _ => 0, size, 0⟩

end IotConnect.Coap
