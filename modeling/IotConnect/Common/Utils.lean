import IotConnect.Common.Errcode
import IotConnect.Foundations.Memory
import Mathlib.Data.List.TakeWhile
import Mathlib.Algebra.GroupWithZero.Nat
import Mathlib.Algebra.Group.Int.Defs

/-! Helpers of `utils_common.c` and of the bounds-checked copy the code base uses everywhere. -/
namespace IotConnect
open Memory
set_option autoImplicit false

instance lawfulBEqBytes : LawfulBEq (List UInt8) := inferInstance

theorem ok_bind {α β ε : Type} (a : α) (f : α → Except ε β) : (Except.ok a >>= f) = f a := rfl

def utilsDeltaTime (timeNew timeOld : UInt32) : UInt32 :=
  if timeOld ≤ timeNew then timeNew - timeOld else (0xFFFFFFFF - timeOld) + timeNew + 1

theorem utilsDeltaTime_eq (a b : UInt32) : utilsDeltaTime a b = a - b := by
  unfold utilsDeltaTime
  split_ifs
  · rfl
  · grind

theorem toNat_toUInt8 (n : ℕ) : n.toUInt8.toNat = n % 2 ^ 8 := by
  rw [Nat.toUInt8_eq, UInt8.toNat_ofNat']

def iotcMaxMallocSize : ℕ := 2 * 1024 * 1024

/-- `IotcMalloc`, and `IotcCalloc` of `size` elements of one byte; `mem` says that the system has the memory. -/
def iotcMalloc (mem : Bool) (size : ℕ) : Bool := size ≠ 0 ∧ size ≤ iotcMaxMallocSize ∧ mem

theorem iotcMalloc_eq_true {mem : Bool} {size : ℕ} :
    iotcMalloc mem size = true ↔ 0 < size ∧ size ≤ iotcMaxMallocSize ∧ mem = true := by
  simp [iotcMalloc, Nat.pos_iff_ne_zero]

/-- The text of a character array, which ends at the first zero byte. -/
def cString (s : List UInt8) : List UInt8 := s.takeWhile (· ≠ 0)

theorem cString_length (s : List UInt8) : (cString s).length ≤ s.length := (List.takeWhile_sublist _).length_le

theorem zero_notMem_cString (s : List UInt8) : 0 ∉ cString s := by
  intro h
  have := List.mem_takeWhile_imp h
  simp at this

theorem cString_of_notMem {s : List UInt8} (h : 0 ∉ s) : cString s = s := by
  apply List.takeWhile_eq_self_iff.mpr
  intro c hc
  exact decide_eq_true (ne_of_mem_of_not_mem hc h)

/-- `a - b` of two `uint32_t`. -/
def u32Sub (a b : ℕ) : ℕ := if b ≤ a then a - b else a + 2 ^ 32 - b

theorem u32Sub_of_le {a b : ℕ} (h : b ≤ a) : u32Sub a b = a - b := if_pos h

/-- `memcpy_s (dst + off) destMax src`: refused when the destination is empty or too small. -/
def memcpyS (dst : ℕ → UInt8) (off destMax : ℕ) (src : List UInt8) : Option (ℕ → UInt8) :=
  if 0 < destMax ∧ src.length ≤ destMax then some (store dst off src) else none

theorem memcpyS_of_le (dst : ℕ → UInt8) (off destMax : ℕ) (src : List UInt8) (h0 : 0 < destMax)
    (h : src.length ≤ destMax) : memcpyS dst off destMax src = some (store dst off src) :=
  if_pos ⟨h0, h⟩

theorem memcpyS_eq_some {dst dst' : ℕ → UInt8} {off destMax : ℕ} {src : List UInt8}
    (h : memcpyS dst off destMax src = some dst') : src.length ≤ destMax ∧ dst' = store dst off src := by
  unfold memcpyS at h
  split_ifs at h with hle
  exact ⟨hle.2, (Option.some.inj h).symm⟩

end IotConnect
