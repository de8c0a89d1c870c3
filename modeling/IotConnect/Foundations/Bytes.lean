import Mathlib.Tactic.Common
import Mathlib.Data.Nat.Basic
import Mathlib.Algebra.GroupWithZero.Nat
import Mathlib.Algebra.Group.Int.Defs

/-! # Byte strings

Blocks of fixed length, the bytes of a text constant, and numbers as big-endian byte strings: writing
a number into a block that is long enough and reading it back gives the number. The bitwise or of two numbers is
their sum exactly when they share no bit. -/
namespace IotConnect.Bytes
set_option autoImplicit false

/-- A byte string of length `n`. -/
def Block (n : ℕ) : Type := { l : List UInt8 // l.length = n }

instance (n : ℕ) : DecidableEq (Block n) := inferInstanceAs (DecidableEq { l : List UInt8 // l.length = n })

def Block.zero (n : ℕ) : Block n := ⟨List.replicate n 0, List.length_replicate⟩

def Block.ofList (l : List UInt8) : Block l.length := ⟨l, rfl⟩

theorem Block.ofList_val (l : List UInt8) : (Block.ofList l).val = l := rfl

@[simp] theorem Block.length_val {n : ℕ} (b : Block n) : b.val.length = n := b.property

theorem forall_byte {p : UInt8 → Prop} (h : ∀ n : Fin 256, p (UInt8.ofNat n)) (c : UInt8) : p c := by
  have := h ⟨c.toNat, c.toNat_lt⟩
  rwa [show UInt8.ofNat c.toNat = c from UInt8.ofNat_toNat] at this

def ascii (s : String) : List UInt8 := s.toList.map Char.toUInt8

/-! ## Big-endian numbers -/

def ofBytes (l : List UInt8) : ℕ := l.foldl (fun n b => n * 256 + b.toNat) 0

def toBytes : ℕ → ℕ → List UInt8
  | 0, _ => []
  | k + 1, n => toBytes k (n / 256) ++ [n.toUInt8]

@[simp] theorem toBytes_length (k n : ℕ) : (toBytes k n).length = k := by
  induction k generalizing n with
  | zero => rfl
  | succ k ih => rw [toBytes, List.length_append, ih, List.length_singleton]

theorem ofBytes_snoc (l : List UInt8) (b : UInt8) : ofBytes (l ++ [b]) = ofBytes l * 256 + b.toNat := by
  rw [ofBytes, List.foldl_append]
  rfl

theorem ofBytes_toBytes {k n : ℕ} (h : n < 256 ^ k) : ofBytes (toBytes k n) = n := by
  induction k generalizing n with
  | zero =>
    rw [Nat.pow_zero] at h
    rw [toBytes, Nat.lt_one_iff.mp h]
    rfl
  | succ k ih =>
    have hdiv : n / 256 < 256 ^ k := Nat.div_lt_of_lt_mul (by rwa [Nat.pow_succ, Nat.mul_comm] at h)
    rw [toBytes, ofBytes_snoc, ih hdiv, Nat.toUInt8_eq, UInt8.toNat_ofNat', Nat.div_add_mod']

theorem or_add_and (a b : ℕ) : (a ||| b) + (a &&& b) = a + b := by
  induction a using Nat.strongRecOn generalizing b with
  | ind a ih =>
    by_cases ha : a = 0
    · simp [ha]
    -- the two sides agree on the halves and on the lowest bit
    have h := ih (a / 2) (by omega) (b / 2)
    have ho : (a ||| b) / 2 = a / 2 ||| b / 2 := Nat.or_div_two
    have hn : (a &&& b) / 2 = a / 2 &&& b / 2 := Nat.and_div_two
    have ho2 : (a ||| b) % 2 = 1 ↔ a % 2 = 1 ∨ b % 2 = 1 := Nat.or_mod_two_eq_one
    have hn2 : (a &&& b) % 2 = 1 ↔ a % 2 = 1 ∧ b % 2 = 1 := Nat.and_mod_two_eq_one
    omega

theorem or_eq_add_iff (a b : ℕ) : a ||| b = a + b ↔ a &&& b = 0 := by
  have := or_add_and a b
  omega

end IotConnect.Bytes
