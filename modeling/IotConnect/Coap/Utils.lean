import IotConnect.Coap.Packet

/-! # Options of a received packet (`coap_codec_utils.c`)

Finding the options of a number, and joining the options of a URI to its text. -/
namespace IotConnect.Coap
set_option autoImplicit false

def coapUriMaxLen : ℕ := 128

def coapOptionTypeUriPath : UInt16 := 11
def coapOptionTypeUriQuery : UInt16 := 15
def coapOptionTypeSessionId : UInt16 := 2048
def coapOptionTypePuuid : UInt16 := 2056

def CoapPacket.optionList (pkt : CoapPacket) : List CoapOption := (List.range pkt.opNum).map pkt.options

/-- `CoapUtilsFindOption`: the first option of the number and those of the same number behind it, of which the
code returns a pointer to the first and the count `seg`. -/
def coapUtilsFindOption (pkt : CoapPacket) (option : UInt16) : List CoapOption :=
  (pkt.optionList.dropWhile fun o => o.option ≠ option).takeWhile fun o => o.option = option

/-- An option that has to be there once and not to be empty: its value. -/
def coapSingleOption (pkt : CoapPacket) (raw : CoapRaw) (option : UInt16) : Option (List UInt8) :=
  match coapUtilsFindOption pkt option with
  | [o] => if o.value.data = none ∨ o.value.len = 0 then none else some (raw.read o.value)
  | _ => none

/-! ## The URI -/

/-- The loop of `CoapUtilsGetUriOption` when `text` has been written to a buffer of `size` bytes. -/
def uriSegments (raw : CoapRaw) (size : ℕ) (delimiter : UInt8) : List UInt8 → List CoapOption →
    Except IotcErr (List UInt8)
  | text, [] => .ok text
  | text, o :: os =>
    if o.value.data = none ∨ o.value.len = 0 then .error ⟨.coapOptionInvalid, by decide⟩
    else if size - text.length < o.value.len then .error ⟨.coapBufferShort, by decide⟩
    else
      let text := text ++ raw.read o.value
      if os = [] then .ok text
      else if text.length < size then uriSegments raw size delimiter (text ++ [delimiter]) os
      else .error ⟨.coapBufferShort, by decide⟩

def coapUtilsGetUriOption (pkt : CoapPacket) (raw : CoapRaw) (size : ℕ) (option : UInt16) (delimiter : UInt8) :
    Except IotcErr (List UInt8) :=
  uriSegments raw size delimiter [] (coapUtilsFindOption pkt option)

/-- `CoapUtilsGetUriPath` into a cleared buffer that is one byte longer than `size`. -/
def coapUtilsGetUriPath (pkt : CoapPacket) (raw : CoapRaw) (size : ℕ) : Except IotcErr (List UInt8) :=
  if size = 0 then .error ⟨.errParamInvalid, IotcRet.errParamInvalid_ne_ok⟩
  else
    match coapUtilsGetUriOption pkt raw size coapOptionTypeUriPath '/'.toUInt8 with
    | .error ret => .error ret
    | .ok path => if size ≤ path.length then .error ⟨.coapBufferShort, by decide⟩ else .ok path

/-- `CoapUtilsGetUri` into a cleared buffer that is one byte longer than `size`. -/
def coapUtilsGetUri (pkt : CoapPacket) (raw : CoapRaw) (size : ℕ) : Except IotcErr (List UInt8) :=
  if size = 0 then .error ⟨.errParamInvalid, IotcRet.errParamInvalid_ne_ok⟩
  else
    match coapUtilsGetUriOption pkt raw size coapOptionTypeUriPath '/'.toUInt8 with
    | .error ret => .error ret
    | .ok path =>
      if coapUtilsFindOption pkt coapOptionTypeUriPath = [] then .ok []
      else if size - 1 ≤ path.length then .error ⟨.coapBufferShort, by decide⟩
      else
        match coapUtilsGetUriOption pkt raw (size - (path.length + 1)) coapOptionTypeUriQuery '&'.toUInt8 with
        | .error ret => .error ret
        | .ok query => if query.length = 0 then .ok path else .ok (path ++ '?'.toUInt8 :: query)

/-- The URI as `strcmp` sees it. -/
def coapUriString (pkt : CoapPacket) (raw : CoapRaw) : Except IotcErr (List UInt8) :=
  (coapUtilsGetUri pkt raw coapUriMaxLen).map cString

theorem coapUtilsGetUri_path {pkt : CoapPacket} {raw : CoapRaw} {size : ℕ} {path uri : List UInt8}
    (hpath : coapUtilsGetUriPath pkt raw size = .ok path) (huri : coapUtilsGetUri pkt raw size = .ok uri) :
    path <+: uri := by
  unfold coapUtilsGetUriPath at hpath
  unfold coapUtilsGetUri at huri
  split at hpath
  · cases hpath
  rename_i hsize
  rw [if_neg hsize] at huri
  cases hoption : coapUtilsGetUriOption pkt raw size coapOptionTypeUriPath '/'.toUInt8 with
  | error ret =>
    rw [hoption] at hpath
    cases hpath
  | ok text =>
    rw [hoption] at hpath huri
    dsimp only at hpath huri
    split at hpath
    · cases hpath
    cases hpath
    split at huri
    · rename_i hnone
      rw [coapUtilsGetUriOption, hnone] at hoption
      cases hoption
      exact List.nil_prefix
    split at huri
    · cases huri
    cases hquery : coapUtilsGetUriOption pkt raw (size - (path.length + 1)) coapOptionTypeUriQuery '&'.toUInt8 with
    | error ret =>
      rw [hquery] at huri
      cases huri
    | ok query =>
      rw [hquery] at huri
      dsimp only at huri
      split at huri
      · cases huri
        exact List.prefix_rfl
      · cases huri
        exact List.prefix_append _ _

theorem cString_prefix {a b : List UInt8} (h : a <+: b) : cString a <+: cString b := by
  obtain ⟨l, rfl⟩ := h
  unfold cString
  rw [List.takeWhile_append]
  split
  · exact (List.takeWhile_prefix _).trans (List.prefix_append _ _)
  · exact List.prefix_rfl

end IotConnect.Coap
