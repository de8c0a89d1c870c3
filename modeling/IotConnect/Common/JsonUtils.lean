import IotConnect.Common.Utils
import IotConnect.Foundations.Json

/-! # Reading JSON objects (`iotc_json.c`, `utils_json.c`)

The parser is a parameter, and so are the objects it gives. A number of the text need not be whole: `IotcJsonGetNum`
converts it to 64 bits. -/
namespace IotConnect
set_option autoImplicit false

structure JsonAdapter where
  Obj : Type
  parseWithLen : List UInt8 → Option Obj
  getObj : Obj → String → Option Obj
  num : Obj → Option Rat
  /-- What the conversion gives for a number outside `int64_t`, which C leaves open. -/
  wide : Rat → Int
  str : Obj → Option (List UInt8)

/-- An adapter whose objects are the values of `Foundations.Json`. -/
def JsonAdapter.ofParser (parse : List UInt8 → Option Json.Value) : JsonAdapter where
  Obj := Json.Value
  parseWithLen := parse
  getObj := fun v name =>
    match v with
    | .obj members => (members.find? fun m => m.1 = Bytes.ascii name).map Prod.snd
    | _ => none
  num := fun v =>
    match v with
    | .num n => some (Rat.ofInt n)
    | _ => none
  wide := fun _ => -2 ^ 63
  str := fun v =>
    match v with
    | .str s => some s
    | _ => none

variable (J : JsonAdapter)

/-- The conversion to `int64_t`, which cuts off the fraction. -/
def JsonAdapter.toInt64 (value : Rat) : Int :=
  let whole := value.num.tdiv value.den
  if -2 ^ 63 ≤ whole ∧ whole < 2 ^ 63 then whole else J.wide value

def JsonAdapter.int (json : J.Obj) : Option Int := (J.num json).map J.toInt64

def iotcJsonParseWithLen (str : List UInt8) : Option J.Obj := if str = [] then none else J.parseWithLen str

def iotcJsonGetNum (json : Option J.Obj) : Except IotcErr Int :=
  match json with
  | none => .error ⟨.errParamInvalid, IotcRet.errParamInvalid_ne_ok⟩
  | some json =>
    match J.int json with
    | none => .error ⟨.jsonErrType, by decide⟩
    | some val => .ok val

/-- `UtilsJsonGetNum`: a number below the range of `int32_t` is cut to 32 bits. -/
def utilsJsonGetNum (json : J.Obj) (name : String) : Except IotcErr Int :=
  match iotcJsonGetNum J (J.getObj json name) with
  | .error ret => .error ret
  | .ok err =>
    if err > 2 ^ 31 - 1 then .error ⟨.utilsErrJsonInvalidErrcode, by decide⟩
    else .ok (Int.bmod err (2 ^ 32))

def utilsJsonGetUint (json : J.Obj) (name : String) : Except IotcErr UInt32 :=
  match iotcJsonGetNum J (J.getObj json name) with
  | .error ret => .error ret
  | .ok jsonNum =>
    if jsonNum > 2 ^ 32 - 1 ∨ jsonNum < 0 then .error ⟨.utilsErrJsonInvalidErrcode, by decide⟩
    else .ok (UInt32.ofNat jsonNum.toNat)

/-- `UtilsJsonGetString` into an array of `len` characters. -/
def utilsJsonGetString (json : J.Obj) (key : String) (len : ℕ) : Except IotcErr (List UInt8) :=
  match (J.getObj json key).bind J.str with
  | none => .error ⟨.jsonErrGetString, IotcRet.jsonErrGetString_ne_ok⟩
  | some str => if str.length < len then .ok str else .error ⟨.errSecurecStrcpy, by decide⟩

def carriedNum (json : J.Obj) (name : String) : Option Int := (J.getObj json name).bind J.int

variable {J}

theorem utilsJsonGetNum_ok {json : J.Obj} {name : String} {n : Int} (h : utilsJsonGetNum J json name = .ok n) :
    ∃ err, carriedNum J json name = some err ∧ n = Int.bmod err (2 ^ 32) := by
  unfold utilsJsonGetNum iotcJsonGetNum at h
  unfold carriedNum
  cases hobj : J.getObj json name with
  | none =>
    rw [hobj] at h
    cases h
  | some obj =>
    rw [hobj] at h
    cases hnum : J.int obj with
    | none =>
      simp only [hnum] at h
      cases h
    | some err =>
      simp only [hnum] at h
      split_ifs at h
      cases h
      exact ⟨err, hnum, rfl⟩

end IotConnect
