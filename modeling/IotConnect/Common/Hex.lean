import IotConnect.Foundations.Bytes

/-! # Hexadecimal text (`UtilsHexify`, `UtilsUnhexify` of `utils_common.c`) -/
namespace IotConnect
open Bytes
set_option autoImplicit false

def hexDigit (n : UInt8) : UInt8 := if n < 10 then '0'.toUInt8 + n else 'a'.toUInt8 + n - 10

def hexByte (b : UInt8) : List UInt8 := [hexDigit (b / 16), hexDigit (b % 16)]

def hexText (l : List UInt8) : List UInt8 := l.flatMap hexByte

def utilsHexify (inBuf : List UInt8) (outBufLen : ℕ) : Option (List UInt8) :=
  if inBuf.length = 0 ∨ outBufLen = 0 then none
  else if outBufLen / 2 < inBuf.length then none
  else some (hexText inBuf)

def hexChar2Num (c : UInt8) : Option UInt8 :=
  if '0'.toUInt8 ≤ c ∧ c ≤ '9'.toUInt8 then some (c - '0'.toUInt8)
  else if 'a'.toUInt8 ≤ c ∧ c ≤ 'f'.toUInt8 then some (c - 'a'.toUInt8 + 10)
  else if 'A'.toUInt8 ≤ c ∧ c ≤ 'F'.toUInt8 then some (c - 'A'.toUInt8 + 10)
  else none

/-- The loop of `UtilsUnhexify` over an even number of characters. -/
def unhexPairs : List UInt8 → Option (List UInt8)
  | h :: l :: s => do
    let high ← hexChar2Num h
    let low ← hexChar2Num l
    let rest ← unhexPairs s
    return (high <<< 4 ||| low) :: rest
  | _ => some []

def utilsUnhexify (inBuf : List UInt8) (outBufLen : ℕ) : Option (List UInt8) :=
  if inBuf.length = 0 ∨ outBufLen = 0 then none
  else if inBuf.length % 2 ≠ 0 then none
  else if outBufLen < inBuf.length / 2 then none
  else unhexPairs inBuf

theorem hexText_cons (b : UInt8) (l : List UInt8) :
    hexText (b :: l) = hexDigit (b / 16) :: hexDigit (b % 16) :: hexText l := rfl

@[simp] theorem hexText_length (l : List UInt8) : (hexText l).length = 2 * l.length := by
  induction l with
  | nil => rfl
  | cons b l ih =>
    rw [hexText_cons, List.length_cons, List.length_cons, ih, List.length_cons]
    omega

theorem hexChar2Num_hexByte (b : UInt8) : hexChar2Num (hexDigit (b / 16)) = some (b / 16) ∧
    hexChar2Num (hexDigit (b % 16)) = some (b % 16) ∧ (b / 16) <<< 4 ||| b % 16 = b := by
  revert b
  exact forall_byte (by decide +kernel)

theorem unhexPairs_hexText (l : List UInt8) : unhexPairs (hexText l) = some l := by
  induction l with
  | nil => rfl
  | cons b l ih =>
    obtain ⟨hhigh, hlow, hbyte⟩ := hexChar2Num_hexByte b
    rw [hexText_cons, unhexPairs, hhigh, hlow, ih]
    simp only [Option.bind_eq_bind, Option.bind_some]
    rw [hbyte]
    rfl

theorem unhexPairs_length {s l : List UInt8} (h : unhexPairs s = some l) : l.length = s.length / 2 := by
  induction s using unhexPairs.induct generalizing l with
  | case1 a b s ih =>
    rw [unhexPairs] at h
    simp only [Option.bind_eq_bind, Option.bind_eq_some_iff, Option.pure_def, Option.some.injEq] at h
    obtain ⟨_, _, _, _, rest, hrest, rfl⟩ := h
    rw [List.length_cons, ih hrest, List.length_cons, List.length_cons]
    omega
  | case2 s hs =>
    match s, hs with
    | [], _ => cases h; rfl
    | [_], _ => cases h; simp
    | a :: b :: s, hs => exact absurd rfl (hs a b s)

theorem utilsHexify_eq {l : List UInt8} {n : ℕ} (h0 : l ≠ []) (hn : 2 * l.length ≤ n) :
    utilsHexify l n = some (hexText l) := by
  have := List.length_pos_iff.mpr h0
  rw [utilsHexify, if_neg (by omega), if_neg (by omega)]

theorem utilsUnhexify_hexText {l : List UInt8} {n : ℕ} (h0 : l ≠ []) (hn : l.length ≤ n) :
    utilsUnhexify (hexText l) n = some l := by
  have := List.length_pos_iff.mpr h0
  rw [utilsUnhexify, hexText_length, if_neg (by omega), if_neg (by omega), if_neg (by omega), unhexPairs_hexText]

theorem utilsUnhexify_length {s l : List UInt8} {n : ℕ} (h : utilsUnhexify s n = some l) :
    l.length = s.length / 2 ∧ 0 < l.length ∧ l.length ≤ n := by
  unfold utilsUnhexify at h
  split_ifs at h
  have := unhexPairs_length h
  omega

end IotConnect
