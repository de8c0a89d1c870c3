import IotConnect.Common.Hex
import IotConnect.Foundations.Memory
import Mathlib.Data.List.Induction

/-! # The laws of the hexadecimal coding

`UtilsUnhexifyR` decodes from the last character on, upper-case digits are accepted, and `UtilsUnhexify` may
write over the text it reads: every write lands behind the position of the next read. -/
namespace IotConnect
open Bytes Memory
set_option autoImplicit false

/-! ## Which texts are decoded -/

def IsHexChar (c : UInt8) : Prop :=
  '0'.toUInt8 ≤ c ∧ c ≤ '9'.toUInt8 ∨ 'a'.toUInt8 ≤ c ∧ c ≤ 'f'.toUInt8 ∨ 'A'.toUInt8 ≤ c ∧ c ≤ 'F'.toUInt8

theorem hexChar2Num_isSome (c : UInt8) : (hexChar2Num c).isSome = true ↔ IsHexChar c := by
  unfold hexChar2Num IsHexChar
  split_ifs with h1 h2 h3
  · simp [h1]
  · simp [h2]
  · simp [h3]
  · simp [h1, h2, h3]

theorem unhexPairs_isSome {s : List UInt8} (h : s.length % 2 = 0) :
    (unhexPairs s).isSome = true ↔ ∀ c ∈ s, IsHexChar c := by
  induction s using unhexPairs.induct with
  | case1 a b s ih =>
    rw [List.length_cons, List.length_cons] at h
    have hs := ih (by omega)
    rw [unhexPairs, List.forall_mem_cons, List.forall_mem_cons, ← hexChar2Num_isSome, ← hexChar2Num_isSome, ← hs]
    cases hexChar2Num a with
    | none => simp
    | some high =>
      cases hexChar2Num b with
      | none => simp
      | some low => cases unhexPairs s <;> simp
  | case2 s hs =>
    rcases s with _ | ⟨a, _ | ⟨b, s⟩⟩
    · simp [unhexPairs]
    · simp at h
    · exact absurd rfl (hs a b s)

theorem utilsUnhexify_isSome {s : List UInt8} (n : ℕ) (h : s.length % 2 = 0) (hs : s ≠ []) :
    (utilsUnhexify s n).isSome = true ↔ (∀ c ∈ s, IsHexChar c) ∧ s.length / 2 ≤ n := by
  have hpos := List.length_pos_iff.mpr hs
  unfold utilsUnhexify
  by_cases hfits : s.length / 2 ≤ n
  · rw [if_neg (by omega), if_neg (by omega), if_neg (by omega), unhexPairs_isSome h]
    exact (and_iff_left hfits).symm
  · have hnone : (if s.length = 0 ∨ n = 0 then none else if s.length % 2 ≠ 0 then none
        else if n < s.length / 2 then none else unhexPairs s) = none := by
      split_ifs <;> first | rfl | omega
    rw [hnone]
    simp [hfits]

/-! ## Upper case -/

def upperCase (c : UInt8) : UInt8 := if 'a'.toUInt8 ≤ c ∧ c ≤ 'z'.toUInt8 then c - 32 else c

theorem hexChar2Num_upperCase (c : UInt8) : hexChar2Num (upperCase c) = hexChar2Num c := by
  unfold upperCase
  split_ifs with h
  · have hlow : ¬ ('0'.toUInt8 ≤ c ∧ c ≤ '9'.toUInt8) ∧ ¬ ('0'.toUInt8 ≤ c - 32 ∧ c - 32 ≤ '9'.toUInt8) ∧
        ¬ ('a'.toUInt8 ≤ c - 32 ∧ c - 32 ≤ 'f'.toUInt8) ∧ ¬ ('A'.toUInt8 ≤ c ∧ c ≤ 'F'.toUInt8) ∧
        (('A'.toUInt8 ≤ c - 32 ∧ c - 32 ≤ 'F'.toUInt8) ↔ ('a'.toUInt8 ≤ c ∧ c ≤ 'f'.toUInt8)) ∧
        c - 32 - 'A'.toUInt8 = c - 'a'.toUInt8 := by
      have hc : (97 : UInt8) ≤ c ∧ c ≤ 122 := h
      change ¬ ((48 : UInt8) ≤ c ∧ c ≤ 57) ∧ ¬ ((48 : UInt8) ≤ c - 32 ∧ c - 32 ≤ 57) ∧
        ¬ ((97 : UInt8) ≤ c - 32 ∧ c - 32 ≤ 102) ∧ ¬ ((65 : UInt8) ≤ c ∧ c ≤ 70) ∧
        (((65 : UInt8) ≤ c - 32 ∧ c - 32 ≤ 70) ↔ ((97 : UInt8) ≤ c ∧ c ≤ 102)) ∧ c - 32 - 65 = c - 97
      grind
    obtain ⟨h1, h2, h3, h4, h5, h6⟩ := hlow
    unfold hexChar2Num
    rw [if_neg h1, if_neg h2, if_neg h3, if_neg h4, h6]
    by_cases hdigit : 'a'.toUInt8 ≤ c ∧ c ≤ 'f'.toUInt8
    · rw [if_pos (h5.mpr hdigit), if_pos hdigit]
    · rw [if_neg (mt h5.mp hdigit), if_neg hdigit]
  · rfl

theorem unhexPairs_upperCase (s : List UInt8) : unhexPairs (s.map upperCase) = unhexPairs s := by
  induction s using unhexPairs.induct with
  | case1 a b s ih =>
    rw [List.map_cons, List.map_cons, unhexPairs, unhexPairs, hexChar2Num_upperCase, hexChar2Num_upperCase, ih]
  | case2 s hs =>
    rcases s with _ | ⟨a, _ | ⟨b, s⟩⟩
    · rfl
    · rfl
    · exact absurd rfl (hs a b s)

theorem utilsUnhexify_upperCase (s : List UInt8) (n : ℕ) : utilsUnhexify (s.map upperCase) n = utilsUnhexify s n := by
  rw [utilsUnhexify, utilsUnhexify, List.length_map, unhexPairs_upperCase]

/-! ## From the last character on -/

/-- The loop of `UtilsUnhexifyR`; the text is given from its last character to its first. -/
def unhexPairsR : List UInt8 → Option (List UInt8)
  | l :: h :: s => do
    let low ← hexChar2Num l
    let high ← hexChar2Num h
    let rest ← unhexPairsR s
    return (high <<< 4 ||| low) :: rest
  | _ => some []

def utilsUnhexifyR (inBuf : List UInt8) (outBufLen : ℕ) : Option (List UInt8) :=
  if inBuf.length = 0 ∨ outBufLen = 0 then none
  else if inBuf.length % 2 ≠ 0 then none
  else if outBufLen < inBuf.length / 2 then none
  else unhexPairsR inBuf.reverse

theorem hexText_append (l l' : List UInt8) : hexText (l ++ l') = hexText l ++ hexText l' := List.flatMap_append

theorem unhexPairsR_hexText (l : List UInt8) : unhexPairsR (hexText l).reverse = some l.reverse := by
  induction l using List.reverseRecOn with
  | nil => rfl
  | append_singleton l b ih =>
    obtain ⟨hhigh, hlow, hbyte⟩ := hexChar2Num_hexByte b
    have htext : (hexText (l ++ [b])).reverse = hexDigit (b % 16) :: hexDigit (b / 16) :: (hexText l).reverse := by
      rw [hexText_append, List.reverse_append]
      rfl
    rw [htext, unhexPairsR, hlow, hhigh, ih]
    simp only [Option.bind_eq_bind, Option.bind_some]
    rw [hbyte, List.reverse_append]
    rfl

theorem utilsUnhexifyR_hexText {l : List UInt8} {n : ℕ} (h0 : l ≠ []) (hn : l.length ≤ n) :
    utilsUnhexifyR (hexText l) n = some l.reverse := by
  have := List.length_pos_iff.mpr h0
  rw [utilsUnhexifyR, hexText_length, if_neg (by omega), if_neg (by omega), if_neg (by omega), unhexPairsR_hexText]

/-! ## In memory

The input and the output are pointers into one memory. -/

/-- The loop of `UtilsUnhexify` with `n` bytes to go. -/
def unhexifyLoop (mem : ℕ → UInt8) (inBuf outBuf : ℕ) : ℕ → Bool × (ℕ → UInt8)
  | 0 => (true, mem)
  | n + 1 =>
    match hexChar2Num (mem inBuf), hexChar2Num (mem (inBuf + 1)) with
    | some high, some low => unhexifyLoop (store mem outBuf [high <<< 4 ||| low]) (inBuf + 2) (outBuf + 1) n
    | _, _ => (false, mem)

def utilsUnhexifyAt (mem : ℕ → UInt8) (inBuf inBufLen outBuf outBufLen : ℕ) : Bool × (ℕ → UInt8) :=
  if inBufLen = 0 ∨ outBufLen = 0 then (false, mem)
  else if inBufLen % 2 ≠ 0 then (false, mem)
  else if outBufLen < inBufLen / 2 then (false, mem)
  else unhexifyLoop mem inBuf outBuf (inBufLen / 2)

/-- No write changes a character that is still to be read. -/
def WritesBehind (inBuf outBuf n : ℕ) : Prop := outBuf ≤ inBuf ∨ inBuf + 2 * n ≤ outBuf

theorem WritesBehind.load_store {inBuf outBuf n : ℕ} (h : WritesBehind inBuf outBuf (n + 1)) (mem : ℕ → UInt8)
    (b : UInt8) : load (store mem outBuf [b]) (inBuf + 2) (2 * n) = load mem (inBuf + 2) (2 * n) := by
  rcases h with h | h
  · exact load_store_after mem outBuf _ _ [b] (by rw [List.length_singleton]; omega)
  · exact load_store_before mem outBuf _ _ [b] (by omega)

theorem WritesBehind.next {inBuf outBuf n : ℕ} (h : WritesBehind inBuf outBuf (n + 1)) :
    WritesBehind (inBuf + 2) (outBuf + 1) n := by
  unfold WritesBehind at h ⊢
  omega

/-- What the loop leaves where the decoding of the text gives `r`. -/
def Decoded (mem : ℕ → UInt8) (outBuf : ℕ) (r : Option (List UInt8)) (res : Bool × (ℕ → UInt8)) : Prop :=
  res.1 = r.isSome ∧ ∀ l ∈ r, res.2 = store mem outBuf l

theorem unhexifyLoop_decoded {n : ℕ} : ∀ {inBuf outBuf : ℕ} (mem : ℕ → UInt8), WritesBehind inBuf outBuf n →
    Decoded mem outBuf (unhexPairs (load mem inBuf (2 * n))) (unhexifyLoop mem inBuf outBuf n) := by
  induction n with
  | zero =>
    intro inBuf outBuf mem _
    refine ⟨rfl, ?_⟩
    intro l hl
    cases hl
    rw [store_nil]
    rfl
  | succ n ih =>
    intro inBuf outBuf mem h
    have htext : load mem inBuf (2 * (n + 1)) = mem inBuf :: mem (inBuf + 1) :: load mem (inBuf + 2) (2 * n) := by
      rw [show 2 * (n + 1) = 2 * n + 1 + 1 by omega, load_succ, load_succ]
    rw [htext, unhexPairs, unhexifyLoop]
    cases hexChar2Num (mem inBuf) with
    | none => exact ⟨rfl, by simp⟩
    | some high =>
      cases hexChar2Num (mem (inBuf + 1)) with
      | none => exact ⟨rfl, by simp⟩
      | some low =>
        have hrest := ih (store mem outBuf [high <<< 4 ||| low]) h.next
        rw [h.load_store] at hrest
        obtain ⟨hflag, hmem⟩ := hrest
        refine ⟨by rw [hflag]; cases unhexPairs (load mem (inBuf + 2) (2 * n)) <;> rfl, ?_⟩
        intro l hl
        simp only [Option.bind_eq_bind, Option.bind_some, Option.mem_def, Option.bind_eq_some_iff, Option.pure_def,
          Option.some.injEq] at hl
        obtain ⟨rest, hrest, rfl⟩ := hl
        rw [hmem rest hrest]
        exact (store_append mem outBuf [_] rest).symm

theorem utilsUnhexifyAt_decoded {inBuf len outBuf : ℕ} (mem : ℕ → UInt8) (n : ℕ)
    (h : WritesBehind inBuf outBuf (len / 2)) :
    Decoded mem outBuf (utilsUnhexify (load mem inBuf len) n) (utilsUnhexifyAt mem inBuf len outBuf n) := by
  unfold utilsUnhexify utilsUnhexifyAt
  rw [load_length]
  split_ifs with h0 hodd hfits
  · exact ⟨rfl, by simp⟩
  · exact ⟨rfl, by simp⟩
  · exact ⟨rfl, by simp⟩
  · have heven : 2 * (len / 2) = len := by omega
    have hloop := unhexifyLoop_decoded mem h
    rwa [heven] at hloop

/-- The result and, after a success, the bytes of the output. -/
def decodedAt (res : Bool × (ℕ → UInt8)) (outBuf len : ℕ) : Option (List UInt8) :=
  if res.1 then some (load res.2 outBuf (len / 2)) else none

theorem decodedAt_eq {inBuf len outBuf : ℕ} (mem : ℕ → UInt8) (n : ℕ) (h : WritesBehind inBuf outBuf (len / 2)) :
    decodedAt (utilsUnhexifyAt mem inBuf len outBuf n) outBuf len = utilsUnhexify (load mem inBuf len) n := by
  obtain ⟨hflag, hmem⟩ := utilsUnhexifyAt_decoded mem n h
  unfold decodedAt
  rw [hflag]
  cases hr : utilsUnhexify (load mem inBuf len) n with
  | none => rfl
  | some l =>
    have hlen : l.length = len / 2 := by rw [(utilsUnhexify_length hr).1, load_length]
    rw [hmem l hr, ← hlen, load_store_self]
    rfl

/-! ## The laws -/

theorem hex_coding_laws (b s : List UInt8) (mem : ℕ → UInt8) (inBuf len outBuf n : ℕ) :
    (b ≠ [] → utilsHexify b (2 * b.length) = some (hexText b) ∧
      utilsUnhexify (hexText b) b.length = some b ∧
      utilsUnhexifyR (hexText b) b.length = some b.reverse ∧
      utilsUnhexify ((hexText b).map upperCase) b.length = some b) ∧
    (s.length % 2 = 0 → s ≠ [] →
      ((utilsUnhexify s n).isSome = true ↔ (∀ c ∈ s, IsHexChar c) ∧ s.length / 2 ≤ n)) ∧
    (inBuf + len ≤ outBuf ∨ outBuf + len / 2 ≤ inBuf →
      decodedAt (utilsUnhexifyAt mem inBuf len inBuf n) inBuf len =
        decodedAt (utilsUnhexifyAt mem inBuf len outBuf n) outBuf len) := by
  refine ⟨?_, ?_, ?_⟩
  · intro hb
    exact ⟨utilsHexify_eq hb (Nat.le_refl _), utilsUnhexify_hexText hb (Nat.le_refl _),
      utilsUnhexifyR_hexText hb (Nat.le_refl _), by
        rw [utilsUnhexify_upperCase, utilsUnhexify_hexText hb (Nat.le_refl _)]⟩
  · intro heven hs
    exact utilsUnhexify_isSome n heven hs
  · intro hseparate
    have hhere : WritesBehind inBuf inBuf (len / 2) := .inl (Nat.le_refl _)
    have hthere : WritesBehind inBuf outBuf (len / 2) := by
      unfold WritesBehind
      omega
    rw [decodedAt_eq mem n hhere, decodedAt_eq mem n hthere]

/-- The empty text is refused. -/
theorem empty_text_not_decoded :
    utilsUnhexify [] 1 = none ∧ (∀ c ∈ ([] : List UInt8), IsHexChar c) ∧ ([] : List UInt8).length / 2 ≤ 1 :=
  ⟨rfl, List.forall_mem_nil _, Nat.zero_le 1⟩

end IotConnect
