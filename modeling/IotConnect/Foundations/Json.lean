import IotConnect.Foundations.Bytes

/-! # JSON values and their compact text

The values are those of the library that prints them without white space: strings of bytes with the
usual escapes, whole numbers in decimal, truth values, and objects with their members in the order of
insertion. -/
namespace IotConnect.Json
open Bytes
set_option autoImplicit false

inductive Value
  | str (s : List UInt8)
  | num (n : Int)
  | bool (b : Bool)
  | obj (members : List (List UInt8 × Value))

/-! ## Printing -/

def quote : UInt8 := 34
def backslash : UInt8 := 92
def openBrace : UInt8 := 123
def closeBrace : UInt8 := 125
def comma : UInt8 := 44
def colon : UInt8 := 58
def minus : UInt8 := 45
def digit0 : UInt8 := 48

def hexNibble (n : UInt8) : UInt8 := if n < 10 then digit0 + n else 97 + n - 10

def escape (c : UInt8) : List UInt8 :=
  if c = quote ∨ c = backslash then [backslash, c]
  else if 32 ≤ c then [c]
  else if c = 8 then ascii "\\b"
  else if c = 12 then ascii "\\f"
  else if c = 10 then ascii "\\n"
  else if c = 13 then ascii "\\r"
  else if c = 9 then ascii "\\t"
  else ascii "\\u00" ++ [hexNibble (c / 16), hexNibble (c % 16)]

def quoted (s : List UInt8) : List UInt8 := quote :: (s.flatMap escape ++ [quote])

def decimal : Int → List UInt8
  | .ofNat n => (Nat.toDigits 10 n).map Char.toUInt8
  | .negSucc n => minus :: (Nat.toDigits 10 (n + 1)).map Char.toUInt8

mutual
def print : Value → List UInt8
  | .str s => quoted s
  | .num n => decimal n
  | .bool b => if b then ascii "true" else ascii "false"
  | .obj ms => openBrace :: (printMembers ms ++ [closeBrace])

def printMembers : List (List UInt8 × Value) → List UInt8
  | [] => []
  | (k, v) :: ms => quoted k ++ colon :: (print v ++ printTail ms)

def printTail : List (List UInt8 × Value) → List UInt8
  | [] => []
  | (k, v) :: ms => comma :: (quoted k ++ colon :: (print v ++ printTail ms))
end

end IotConnect.Json
