import IotConnect.Common.Utils
import Mathlib.Data.List.Basic

/-! # Anonymised strings (`dfx_anonymize.c`)

`DfxAnonymizeStrWithBuffer` copies a string to a buffer and rewrites it there. An id, a serial number or a name has the
characters of a range replaced by one `*`; the range is that of the first rule for its length. A MAC or an IP address
is cut into its units in place, by `strtok_s`, and printed again without the middle ones.

A buffer is the list of its bytes, with its length as `bufLen`. The units are copied to an array of 6 or 4 slots whose
index is not checked, so there are as many writes as units were found. -/
namespace IotConnect.Dfx
set_option autoImplicit false

/-! ## Strings in buffers -/

def cstr (buf : List UInt8) : List UInt8 := buf.takeWhile (· ≠ 0)

/-- A C string, without its terminator. -/
structure CString where
  chars : List UInt8
  noNul : 0 ∉ chars

/-- `SECUREC_STRING_MAX_LEN` -/
def securecStringMaxLen : ℕ := 0x7fffffff

/-- Whether `strcpy_s` to an array of `n` bytes succeeds. -/
def strFits (n : ℕ) (s : List UInt8) : Bool := n ≤ securecStringMaxLen ∧ s.length < n

/-- `strcpy_s`: a string that is too long empties the destination. -/
def strcpyS (dst s : List UInt8) : Bool × List UInt8 :=
  if securecStringMaxLen < dst.length then (false, dst)
  else if dst.length ≤ s.length then (false, dst.set 0 0)
  else (true, s ++ 0 :: dst.drop (s.length + 1))

/-- `sprintf_s` with the text `out`: one that is too long is cut off, and then the destination emptied. -/
def sprintfS (dst out : List UInt8) : Bool × List UInt8 :=
  if dst.length ≤ out.length then (false, (out.take (dst.length - 1) ++ [0]).set 0 0)
  else (true, out ++ 0 :: dst.drop (out.length + 1))

def utilsReplaceStrWithRange (buf : List UInt8) (startIndex endIndex : ℤ) (replaceStr : List UInt8) :
    IotcRet × List UInt8 :=
  if buf.length = 0 ∨ startIndex < 0 ∨ endIndex < 0 ∨ endIndex < startIndex then (.errParamInvalid, buf)
  else
    let str := cstr buf
    let (start, stop) := (startIndex.toNat, endIndex.toNat)
    if str.length ≤ stop then (.errParamInvalid, buf)
    else if strFits buf.length str = false then (.errSecurecStrcpy, buf)
    else
      -- empty if the range ends with the string, which the code asks for before each copy
      let endStr := str.drop (stop + 1)
      if stop < str.length - 1 ∧ strFits (str.length - stop + 1) endStr = false then (.errSecurecStrcpy, buf)
      else if strFits (buf.length - start) replaceStr = false then (.errSecurecStrcpy, buf)
      else if stop < str.length - 1 ∧ strFits (buf.length - start - replaceStr.length) endStr = false then
        (.errSecurecStrcpy, buf)
      else
        match strcpyS buf (str.take start ++ replaceStr ++ endStr) with
        | (false, buf) => (.errSecurecStrcpy, buf)
        | (true, buf) => (.ok, buf)

/-! ## Rules -/

def int32Max : ℤ := 2 ^ 31 - 1

/-- `relplaceStr` is left out: it is `"*"` in every rule. -/
structure AnonymizeRule where
  lowerLen : ℤ
  upperLen : ℤ
  startIndex : ℤ
  endIndex : ℤ

def star : List UInt8 := [42]

def idAnonymizeRule : List AnonymizeRule :=
  [⟨1, 1, 0, 0⟩, ⟨2, 3, 1, -1⟩, ⟨4, 5, 2, -1⟩, ⟨6, 10, 4, -1⟩, ⟨11, 11, 3, 6⟩, ⟨12, 18, 6, -1⟩, ⟨19, int32Max, 10, -1⟩]

def snAnonymizeRule : List AnonymizeRule := [⟨1, 5, 0, -1⟩, ⟨6, 12, 2, -3⟩, ⟨13, int32Max, 3, -4⟩]

def nameAnonymizeRule : List AnonymizeRule := [⟨1, 1, 0, -1⟩, ⟨2, 3, 1, 1⟩, ⟨4, 5, 1, 2⟩]

/-- The range of a string of length `len`; a negative index counts from its end. -/
def AnonymizeRule.range (rule : AnonymizeRule) (len : ℤ) : ℤ × ℤ :=
  (if 0 ≤ rule.startIndex then rule.startIndex else len + rule.startIndex,
    if 0 ≤ rule.endIndex then rule.endIndex else len + rule.endIndex)

def ruleRange (rules : List AnonymizeRule) (len : ℤ) : Option (ℤ × ℤ) :=
  (rules.find? fun rule => rule.lowerLen ≤ len ∧ len ≤ rule.upperLen).map fun rule => rule.range len

def replaceRange (buf : List UInt8) : Option (ℤ × ℤ) → IotcRet × List UInt8
  | none => (.errParamInvalid, buf)
  | some (startIndex, endIndex) => utilsReplaceStrWithRange buf startIndex endIndex star

def anonymizeStrWithRule (buf : List UInt8) (rules : List AnonymizeRule) : IotcRet × List UInt8 :=
  replaceRange buf (ruleRange rules (cstr buf).length)

def idAnonymizeStr (buf : List UInt8) : IotcRet × List UInt8 := anonymizeStrWithRule buf idAnonymizeRule

def snAnonymizeStr (buf : List UInt8) : IotcRet × List UInt8 := anonymizeStrWithRule buf snAnonymizeRule

def nameAnonymizeStr (buf : List UInt8) : IotcRet × List UInt8 :=
  let len : ℤ := (cstr buf).length
  if 6 ≤ len then utilsReplaceStrWithRange buf 2 (2 + len / 3) star else anonymizeStrWithRule buf nameAnonymizeRule

/-! ## Units -/

/-- What the loop over the units leaves: the units it copied to its slots, the last of them perhaps without success, and
the text, in which `strtok_s` put the terminators of the units. -/
structure Units where
  units : List (List UInt8)
  ok : Bool
  text : List UInt8

/-- `cur` is what was read of a unit. A slot has `cap` bytes. -/
def unitLoop (d : UInt8) (cap : ℕ) : List UInt8 → List UInt8 → Units
  | cur, [] => if cur = [] then ⟨[], true, []⟩ else ⟨[cur], cur.length < cap, []⟩
  | cur, c :: rest =>
    if c ≠ d then
      let r := unitLoop d cap (cur ++ [c]) rest
      { r with text := c :: r.text }
    else if cur = [] then
      let r := unitLoop d cap [] rest
      { r with text := c :: r.text }
    else if cur.length < cap then
      let r := unitLoop d cap [] rest
      ⟨cur :: r.units, r.ok, 0 :: r.text⟩
    else ⟨[cur], false, 0 :: rest⟩

/-- `MacAnonymizeStr` and `IpAnonymizeStr`: the text of `num` units. -/
structure UnitFormat where
  d : UInt8
  cap : ℕ
  num : ℕ
  text : List (List UInt8) → List UInt8

def UnitFormat.loop (f : UnitFormat) (s : List UInt8) : Units := unitLoop f.d f.cap [] s

def unitsAnonymizeStr (f : UnitFormat) (buf : List UInt8) : IotcRet × List UInt8 :=
  let str := cstr buf
  let r := f.loop str
  let buf := r.text ++ buf.drop str.length
  if r.ok = false then (.errSecurecStrcpy, buf)
  else if r.units.length ≠ f.num then (.errParamInvalid, buf)
  else
    match sprintfS buf (f.text r.units) with
    | (false, buf) => (.errSecurecSprintf, buf)
    | (true, buf) => (.ok, buf)

/-- `"%s:%s:%s:**:**:%s"` -/
def macFormat : UnitFormat where
  d := 58
  cap := 3
  num := 6
  text := fun units =>
    units.getD 0 [] ++ 58 :: units.getD 1 [] ++ 58 :: units.getD 2 [] ++ [58, 42, 42, 58, 42, 42, 58] ++ units.getD 5 []

/-- `"%s.*.*.%s"` -/
def ipFormat : UnitFormat where
  d := 46
  cap := 4
  num := 4
  text := fun units => units.getD 0 [] ++ [46, 42, 46, 42, 46] ++ units.getD 3 []

def macAnonymizeStr (buf : List UInt8) : IotcRet × List UInt8 := unitsAnonymizeStr macFormat buf
def ipAnonymizeStr (buf : List UInt8) : IotcRet × List UInt8 := unitsAnonymizeStr ipFormat buf

inductive AnonymizeType
  | id
  | mac
  | sn
  | ip
  | name
  deriving DecidableEq

def anonymizeFuncTbl : AnonymizeType → List UInt8 → IotcRet × List UInt8
  | .id => idAnonymizeStr
  | .mac => macAnonymizeStr
  | .sn => snAnonymizeStr
  | .ip => ipAnonymizeStr
  | .name => nameAnonymizeStr

/-- `DfxAnonymizeStrWithBuffer` of the buffer itself. -/
def dfxAnonymizeStrInBuffer (type : AnonymizeType) (dstBuf : List UInt8) : IotcRet × List UInt8 :=
  if dstBuf.length = 0 then (.errParamInvalid, dstBuf) else anonymizeFuncTbl type dstBuf

/-- `DfxAnonymizeStrWithBuffer` of a string that is not in the buffer. -/
def dfxAnonymizeStrWithBuffer (src : CString) (type : AnonymizeType) (dstBuf : List UInt8) : IotcRet × List UInt8 :=
  if dstBuf.length = 0 then (.errParamInvalid, dstBuf)
  else
    match strcpyS dstBuf src.chars with
    | (false, dstBuf) => (.errSecurecStrcpy, dstBuf)
    | (true, dstBuf) => anonymizeFuncTbl type dstBuf

/-- A string that was copied to the buffer is anonymised as it is when it stands there from the start. -/
theorem dfxAnonymizeStrWithBuffer_copied {src : CString} {dstBuf buf : List UInt8}
    (h : strcpyS dstBuf src.chars = (true, buf)) (type : AnonymizeType) :
    dfxAnonymizeStrWithBuffer src type dstBuf = dfxAnonymizeStrInBuffer type buf := by
  have hlen : dstBuf.length ≠ 0 ∧ buf.length ≠ 0 := by
    unfold strcpyS at h
    split_ifs at h with hmax hshort
    · cases (Prod.mk.inj h).1
    · cases (Prod.mk.inj h).1
    · obtain ⟨-, rfl⟩ := Prod.mk.inj h
      exact ⟨by omega, by simp⟩
  rw [dfxAnonymizeStrWithBuffer, dfxAnonymizeStrInBuffer, if_neg hlen.1, if_neg hlen.2, h]

def dfxAnonymizeStr (calloc : Bool) (src : CString) (type : AnonymizeType) : IotcRet × Option (List UInt8) :=
  let dstBufLen := (src.chars.length + 1) % 2 ^ 32
  if iotcMalloc calloc dstBufLen = false then (.memErrMalloc, none)
  else
    let (ret, dstBuf) := dfxAnonymizeStrWithBuffer src type (List.replicate dstBufLen 0)
    if ret ≠ .ok then (ret, none) else (.ok, some dstBuf)

/-! ## What a call leaves in the buffer -/

theorem cstr_append {s : List UInt8} (h : 0 ∉ s) (rest : List UInt8) : cstr (s ++ 0 :: rest) = s := by
  have hpos : ∀ c ∈ s, decide (c ≠ 0) = true := fun c hc => decide_eq_true fun h0 => h (h0 ▸ hc)
  unfold cstr
  rw [List.takeWhile_append_of_pos hpos, List.takeWhile_cons_of_neg (by simp), List.append_nil]

/-- The text that replaces `s`. -/
def replaced (s : List UInt8) (start stop : ℕ) : List UInt8 := s.take start ++ star ++ s.drop (stop + 1)

theorem replaced_length {s : List UInt8} {start stop : ℕ} (hle : start ≤ stop) (hlt : stop < s.length) :
    (replaced s start stop).length = start + s.length - stop := by
  unfold replaced star
  rw [List.length_append, List.length_append, List.length_take, List.length_drop, List.length_singleton]
  omega

theorem utilsReplaceStrWithRange_eq {s rest : List UInt8} (h : 0 ∉ s)
    (hmax : (s ++ 0 :: rest).length ≤ securecStringMaxLen) {a b : ℤ} (ha : 0 ≤ a) (hab : a ≤ b) (hb : b < s.length) :
    utilsReplaceStrWithRange (s ++ 0 :: rest) a b star = (.ok,
      replaced s a.toNat b.toNat ++ 0 :: (s ++ 0 :: rest).drop ((replaced s a.toNat b.toNat).length + 1)) := by
  have hlen : (s ++ 0 :: rest).length = s.length + 1 + rest.length := by
    rw [List.length_append, List.length_cons]
    omega
  have hreplaced := @replaced_length s a.toNat b.toNat (by omega) (by omega)
  have hdrop : (s.drop (b.toNat + 1)).length = s.length - (b.toNat + 1) := List.length_drop
  have hfits : ∀ n t, n ≤ securecStringMaxLen → t.length < n → strFits n t ≠ false := fun n t hn ht => by
    unfold strFits
    rw [decide_eq_true ⟨hn, ht⟩]
    decide
  unfold utilsReplaceStrWithRange
  rw [if_neg (by omega), cstr_append h]
  dsimp only
  rw [if_neg (by omega), if_neg (hfits _ _ hmax (by omega)),
    if_neg fun hcopy => hfits _ _ (by omega) (by omega) hcopy.2,
    if_neg (hfits _ _ (by omega) (by change 1 < _; omega)),
    if_neg fun hcopy => hfits _ _ (by omega) (by change _ < _ - _ - 1; omega) hcopy.2]
  change (match strcpyS _ (replaced s a.toNat b.toNat) with
    | (false, buf) => (IotcRet.errSecurecStrcpy, buf)
    | (true, buf) => (IotcRet.ok, buf)) = _
  unfold strcpyS
  rw [if_neg (by omega), if_neg (by omega)]

/-- The range a string of length `len` loses, for the types that replace one. -/
def maskRange (len : ℤ) : AnonymizeType → Option (ℤ × ℤ)
  | .id => ruleRange idAnonymizeRule len
  | .sn => ruleRange snAnonymizeRule len
  | .name => if 6 ≤ len then some (2, 2 + len / 3) else ruleRange nameAnonymizeRule len
  | _ => none

/-- A range within a string of length `len`. -/
def Within (len : ℤ) (range : ℤ × ℤ) : Prop := 0 ≤ range.1 ∧ range.1 ≤ range.2 ∧ range.2 < len

def AnonymizeRule.Sound (rule : AnonymizeRule) : Prop :=
  ∀ len, rule.lowerLen ≤ len → len ≤ rule.upperLen → Within len (rule.range len)

theorem rules_sound : ∀ rule ∈ idAnonymizeRule ++ snAnonymizeRule ++ nameAnonymizeRule, rule.Sound := by
  intro rule hrule len hlower hupper
  simp only [idAnonymizeRule, snAnonymizeRule, nameAnonymizeRule, List.cons_append, List.nil_append, List.mem_cons,
    List.not_mem_nil, or_false] at hrule
  rcases hrule with rfl | rfl | rfl | rfl | rfl | rfl | rfl | rfl | rfl | rfl | rfl | rfl | rfl <;>
    (simp [Within, AnonymizeRule.range] at hlower hupper ⊢; omega)

theorem ruleRange_within {rules : List AnonymizeRule} (h : ∀ rule ∈ rules, rule.Sound) {len : ℤ} {range : ℤ × ℤ}
    (hrange : ruleRange rules len = some range) : Within len range := by
  obtain ⟨rule, hfind, rfl⟩ := Option.map_eq_some_iff.mp hrange
  have hlen : rule.lowerLen ≤ len ∧ len ≤ rule.upperLen := by simpa using List.find?_some hfind
  exact h rule (List.mem_of_find?_eq_some hfind) len hlen.1 hlen.2

theorem maskRange_within {len : ℤ} {type : AnonymizeType} {range : ℤ × ℤ} (h : maskRange len type = some range) :
    Within len range := by
  cases type with
  | id => exact ruleRange_within (fun rule hrule => rules_sound rule (by simp [hrule])) h
  | sn => exact ruleRange_within (fun rule hrule => rules_sound rule (by simp [hrule])) h
  | name =>
    unfold maskRange at h
    split_ifs at h with hlong
    · cases h
      exact ⟨Int.zero_le_ofNat 2, by dsimp only; omega, by dsimp only; omega⟩
    · exact ruleRange_within (fun rule hrule => rules_sound rule (by simp [hrule])) h
  | mac => cases h
  | ip => cases h

/-- Which types replace a range. -/
def AnonymizeType.isRange : AnonymizeType → Bool
  | .mac => false
  | .ip => false
  | _ => true

def AnonymizeType.format : AnonymizeType → UnitFormat
  | .mac => macFormat
  | _ => ipFormat

theorem anonymizeFuncTbl_range {type : AnonymizeType} (h : type.isRange = true) {s : List UInt8} (hs : 0 ∉ s)
    (rest : List UInt8) :
    anonymizeFuncTbl type (s ++ 0 :: rest) = replaceRange (s ++ 0 :: rest) (maskRange s.length type) := by
  have hcstr := cstr_append hs rest
  cases type with
  | id =>
    change anonymizeStrWithRule _ idAnonymizeRule = _
    rw [anonymizeStrWithRule, hcstr]
    rfl
  | sn =>
    change anonymizeStrWithRule _ snAnonymizeRule = _
    rw [anonymizeStrWithRule, hcstr]
    rfl
  | name =>
    change nameAnonymizeStr _ = _
    rw [nameAnonymizeStr, anonymizeStrWithRule, hcstr, maskRange]
    split_ifs <;> rfl
  | mac => cases h
  | ip => cases h

theorem anonymizeFuncTbl_units {type : AnonymizeType} (h : type.isRange = false) :
    anonymizeFuncTbl type = unitsAnonymizeStr type.format := by
  cases type with
  | mac => rfl
  | ip => rfl
  | _ => cases h

/-- A string of the right number of units, none of which is too long. -/
def UnitFormat.WellFormed (f : UnitFormat) (s : List UInt8) : Prop :=
  (f.loop s).ok = true ∧ (f.loop s).units.length = f.num

/-- What is printed for it. -/
def UnitFormat.output (f : UnitFormat) (s : List UInt8) : List UInt8 := f.text (f.loop s).units

section
variable (f : UnitFormat) {s : List UInt8} (hs : 0 ∉ s) (rest : List UInt8)
include hs

theorem unitsAnonymizeStr_malformed (h : ¬ f.WellFormed s) :
    (unitsAnonymizeStr f (s ++ 0 :: rest)).2 = (f.loop s).text ++ 0 :: rest := by
  unfold unitsAnonymizeStr
  rw [cstr_append hs]
  dsimp only
  rw [List.drop_left]
  split_ifs with hok hnum
  · rfl
  · rfl
  · exact absurd ⟨Bool.not_eq_false _ ▸ hok, not_not.mp hnum⟩ h

theorem unitsAnonymizeStr_wellFormed (h : f.WellFormed s) : unitsAnonymizeStr f (s ++ 0 :: rest) =
    match sprintfS ((f.loop s).text ++ 0 :: rest) (f.output s) with
    | (false, buf) => (.errSecurecSprintf, buf)
    | (true, buf) => (.ok, buf) := by
  unfold unitsAnonymizeStr
  rw [cstr_append hs]
  dsimp only
  rw [List.drop_left, h.1, if_neg (by decide), if_neg (not_not.mpr h.2)]
  rfl

end

/-! ## Slots and lengths -/

/-- The non-empty pieces of the string between the separators. -/
def UnitFormat.pieces (f : UnitFormat) (s : List UInt8) : List (List UInt8) := (s.splitOn f.d).filter (· ≠ [])

/-- The pieces up to the first that does not fit its slot, that one included. -/
def copiedPieces (cap : ℕ) : List (List UInt8) → List (List UInt8)
  | [] => []
  | u :: us => if u.length < cap then u :: copiedPieces cap us else [u]

theorem unitLoop_units (d : UInt8) (cap : ℕ) (cur s : List UInt8) :
    (unitLoop d cap cur s).units = copiedPieces cap (((s.splitOn d).modifyHead (cur ++ ·)).filter (· ≠ [])) := by
  induction s generalizing cur with
  | nil =>
    by_cases hcur : cur = []
    · simp [unitLoop, hcur, copiedPieces]
    · simp [unitLoop, hcur, copiedPieces]
  | cons c rest ih =>
    unfold unitLoop List.splitOn
    rw [List.splitOnP_cons_eq_if_modifyHead]
    by_cases hc : c = d
    · have hnil : ∀ l : List (List UInt8), l.modifyHead ([] ++ ·) = l := by
        intro l
        cases l <;> rfl
      rw [if_neg (not_not.mpr hc), if_pos (beq_iff_eq.mpr hc), List.modifyHead_cons, List.append_nil]
      by_cases hcur : cur = []
      · rw [if_pos hcur, List.filter_cons_of_neg (by simp [hcur])]
        rw [ih [], hnil]
        rfl
      · rw [if_neg hcur, List.filter_cons_of_pos (by simp [hcur]), copiedPieces]
        split_ifs with hcap
        · dsimp only
          rw [ih [], hnil]
          rfl
        · rfl
    · have hcons : (fun l : List UInt8 => cur ++ l) ∘ List.cons c = ((cur ++ [c]) ++ ·) := by
        funext l
        simp
      rw [if_pos hc, if_neg (by simpa using hc), List.modifyHead_modifyHead, hcons]
      exact ih (cur ++ [c])

theorem UnitFormat.loop_units (f : UnitFormat) (s : List UInt8) : (f.loop s).units = copiedPieces f.cap (f.pieces s) := by
  have hnil : (s.splitOn f.d).modifyHead ([] ++ ·) = s.splitOn f.d := by
    cases s.splitOn f.d <;> rfl
  rw [UnitFormat.loop, unitLoop_units, hnil]
  rfl

theorem unitLoop_nonempty (d : UInt8) (cap : ℕ) (cur s : List UInt8) : ∀ u ∈ (unitLoop d cap cur s).units, u ≠ [] := by
  induction s generalizing cur with
  | nil =>
    unfold unitLoop
    split_ifs with hcur
    · exact fun u hu => absurd hu List.not_mem_nil
    · intro u hu
      rw [List.mem_singleton.mp hu]
      exact hcur
  | cons c rest ih =>
    unfold unitLoop
    split_ifs with hc hcur hcap
    · exact ih _
    · exact ih _
    · intro u hu
      rcases List.mem_cons.mp hu with rfl | hu
      · exact hcur
      · exact ih _ u hu
    · intro u hu
      rw [List.mem_singleton.mp hu]
      exact hcur

/-- The units and the separators between them are part of the string. -/
theorem unitLoop_length (d : UInt8) (cap : ℕ) (cur s : List UInt8) :
    ((unitLoop d cap cur s).units.map List.length).sum + (unitLoop d cap cur s).units.length ≤
      cur.length + s.length + 1 := by
  induction s generalizing cur with
  | nil =>
    unfold unitLoop
    split_ifs
    · exact Nat.zero_le _
    · simp
  | cons c rest ih =>
    unfold unitLoop
    split_ifs with hc hcur hcap
    · have := ih (cur ++ [c])
      rw [List.length_append, List.length_singleton] at this
      rw [List.length_cons]
      dsimp only
      omega
    · have := ih []
      rw [List.length_nil] at this
      rw [List.length_cons]
      dsimp only
      omega
    · have := ih []
      rw [List.length_nil] at this
      rw [List.length_cons]
      dsimp only
      rw [List.map_cons, List.sum_cons, List.length_cons]
      omega
    · rw [List.length_cons]
      simp

theorem unitLoop_text_length (d : UInt8) (cap : ℕ) (cur s : List UInt8) :
    (unitLoop d cap cur s).text.length = s.length := by
  induction s generalizing cur with
  | nil =>
    unfold unitLoop
    split_ifs <;> rfl
  | cons c rest ih =>
    unfold unitLoop
    split_ifs with hc hcur hcap
    · exact congrArg (· + 1) (ih _)
    · exact congrArg (· + 1) (ih _)
    · exact congrArg (· + 1) (ih _)
    · rfl

theorem sprintfS_fits {dst out : List UInt8} (h : out.length < dst.length) :
    sprintfS dst out = (true, out ++ 0 :: dst.drop (out.length + 1)) := by
  rw [sprintfS, if_neg (Nat.not_le.mpr h)]

/-- A string the rule of the type is for: a length with a rule, a MAC address of six units of two characters, an IP
address of four units of at most three. -/
def Accepts (s : CString) : AnonymizeType → Prop
  | .mac => (macFormat.loop s.chars).ok = true ∧ (macFormat.loop s.chars).units.map List.length = [2, 2, 2, 2, 2, 2]
  | .ip => ipFormat.WellFormed s.chars
  | type => (maskRange s.chars.length type).isSome = true

theorem cstr_length_le (out rest : List UInt8) : (cstr (out ++ 0 :: rest)).length ≤ out.length := by
  induction out with
  | nil => exact Nat.le_refl _
  | cons c out ih =>
    unfold cstr at ih ⊢
    rw [List.cons_append, List.takeWhile_cons]
    split_ifs
    · exact Nat.succ_le_succ ih
    · exact Nat.zero_le _

/-- It succeeds, and the result is at most as long as the source. -/
def Succeeds (s : CString) (type : AnonymizeType) : Prop :=
  ∃ buf, dfxAnonymizeStr true s type = (.ok, some buf) ∧ (cstr buf).length ≤ s.chars.length

/-- How many slots are written by `MacAnonymizeStr` or `IpAnonymizeStr`. -/
def slotsWritten (f : UnitFormat) (buf : List UInt8) : ℕ := (f.loop (cstr buf)).units.length

structure AnonymizerSafe (s : CString) : Prop where
  mac : ∀ rest, slotsWritten macFormat (s.chars ++ 0 :: rest) ≤ 6
  ip : ∀ rest, slotsWritten ipFormat (s.chars ++ 0 :: rest) ≤ 4
  fits : ∀ type, Accepts s type → Succeeds s type

theorem accepted_length {s : CString} {type : AnonymizeType} (h : type.isRange = false) (haccepts : Accepts s type) :
    (type.format.output s.chars).length ≤ s.chars.length := by
  unfold UnitFormat.output
  cases type with
  | mac =>
    have hlength := unitLoop_length macFormat.d macFormat.cap [] s.chars
    obtain ⟨-, hunits⟩ := haccepts
    unfold AnonymizeType.format UnitFormat.loop at *
    dsimp only at *
    rw [hunits] at hlength
    simp only [List.map_eq_cons_iff, List.map_eq_nil_iff] at hunits
    obtain ⟨a, _, hloop, ha, b, _, rfl, hb, c, _, rfl, hc, d, _, rfl, -, e, _, rfl, -, f, _, rfl, hf, rfl⟩ := hunits
    rw [hloop] at hlength ⊢
    simp [macFormat, ha, hb, hc, hf] at hlength ⊢
    exact hlength
  | ip =>
    have hlength := unitLoop_length ipFormat.d ipFormat.cap [] s.chars
    have hnonempty := unitLoop_nonempty ipFormat.d ipFormat.cap [] s.chars
    obtain ⟨-, hunits⟩ := haccepts
    unfold AnonymizeType.format UnitFormat.loop at *
    dsimp only at *
    rcases hloop : (unitLoop ipFormat.d ipFormat.cap [] s.chars).units with _ | ⟨a, _ | ⟨b, _ | ⟨c, _ | ⟨d, _ | ⟨e, l⟩⟩⟩⟩⟩
    all_goals rw [hloop] at hunits hlength hnonempty
    all_goals simp [ipFormat] at hunits
    have hb := List.length_pos_of_ne_nil (hnonempty b (by simp))
    have hc := List.length_pos_of_ne_nil (hnonempty c (by simp))
    simp [ipFormat] at hlength ⊢
    omega
  | _ => cases h

theorem succeeds_of_accepts {s : CString} (hmem : s.chars.length + 1 ≤ iotcMaxMallocSize) {type : AnonymizeType}
    (h : Accepts s type) : Succeeds s type := by
  have hmax : s.chars.length < securecStringMaxLen := by
    unfold iotcMaxMallocSize at hmem
    unfold securecStringMaxLen
    omega
  have hcalloc : iotcMalloc true (s.chars.length + 1) = true := iotcMalloc_eq_true.mpr ⟨Nat.succ_pos _, hmem, rfl⟩
  have hlen : (s.chars.length + 1) % 2 ^ 32 = s.chars.length + 1 :=
    Nat.mod_eq_of_lt (by unfold securecStringMaxLen at hmax; omega)
  have hcopy : strcpyS (List.replicate (s.chars.length + 1) 0) s.chars = (true, s.chars ++ [0]) := by
    unfold strcpyS
    rw [List.length_replicate, if_neg (by omega), if_neg (by omega), List.drop_replicate, Nat.sub_self]
    rfl
  have hcall : ∀ out rest, anonymizeFuncTbl type (s.chars ++ [0]) = (.ok, out ++ 0 :: rest) →
      out.length ≤ s.chars.length → Succeeds s type := fun out rest hout hle => by
    refine ⟨out ++ 0 :: rest, ?_, Nat.le_trans (cstr_length_le out rest) hle⟩
    have hbuffer : dfxAnonymizeStrWithBuffer s type (List.replicate (s.chars.length + 1) 0) = (.ok, out ++ 0 :: rest) := by
      rw [dfxAnonymizeStrWithBuffer_copied hcopy, dfxAnonymizeStrInBuffer, if_neg (by simp), hout]
    rw [dfxAnonymizeStr, hlen]
    simp [hcalloc, hbuffer]
  cases hrange : type.isRange with
  | true =>
    obtain ⟨range, hmask⟩ : ∃ range, maskRange s.chars.length type = some range := by
      cases type with
      | mac => cases hrange
      | ip => cases hrange
      | _ => exact Option.isSome_iff_exists.mp h
    obtain ⟨ha, hab, hb⟩ := maskRange_within hmask
    have hout := @utilsReplaceStrWithRange_eq s.chars [] s.noNul (by rw [List.length_append]; exact hmax) _ _ ha hab hb
    have hle : (replaced s.chars range.1.toNat range.2.toNat).length ≤ s.chars.length := by
      rw [replaced_length (by omega) (by omega)]
      omega
    have hreplace := anonymizeFuncTbl_range hrange s.noNul []
    rw [hmask] at hreplace
    exact hcall _ _ (hreplace.trans hout) hle
  | false =>
    have hle := accepted_length hrange h
    have hwell : type.format.WellFormed s.chars := by
      cases type with
      | mac =>
        have hnum : (macFormat.loop s.chars).units.length = 6 := by simpa using congrArg List.length h.2
        exact ⟨h.1, hnum⟩
      | ip => exact h
      | _ => cases hrange
    have hout := unitsAnonymizeStr_wellFormed type.format s.noNul [] hwell
    have hlt : (type.format.output s.chars).length < ((type.format.loop s.chars).text ++ [0]).length := by
      rw [List.length_append, UnitFormat.loop, unitLoop_text_length]
      exact Nat.lt_succ_of_le hle
    rw [sprintfS_fits hlt, ← anonymizeFuncTbl_units hrange] at hout
    exact hcall _ _ hout hle

theorem not_succeeds_of_long {s : CString} (hlong : iotcMaxMallocSize < s.chars.length + 1) (type : AnonymizeType) :
    ¬ Succeeds s type := by
  rintro ⟨buf, hok, -⟩
  by_cases hmem : iotcMalloc true ((s.chars.length + 1) % 2 ^ 32) = false
  · rw [dfxAnonymizeStr, hmem, if_pos rfl, Prod.mk.injEq] at hok
    cases hok.2
  -- the length has wrapped, and the copy does not fit
  obtain ⟨-, hle, -⟩ := iotcMalloc_eq_true.mp (Bool.not_eq_false _ ▸ hmem)
  have hcopy : (strcpyS (List.replicate ((s.chars.length + 1) % 2 ^ 32) 0) s.chars).1 = false := by
    unfold strcpyS
    rw [List.length_replicate]
    split_ifs with hmax hshort
    · rfl
    · rfl
    · omega
  have hret : (dfxAnonymizeStrWithBuffer s type (List.replicate ((s.chars.length + 1) % 2 ^ 32) 0)).1 ≠ .ok := by
    unfold dfxAnonymizeStrWithBuffer
    split_ifs
    · exact IotcRet.noConfusion
    · cases hstr : strcpyS (List.replicate ((s.chars.length + 1) % 2 ^ 32) 0) s.chars with
      | mk copied dst =>
        rw [hstr] at hcopy
        dsimp only at hcopy ⊢
        subst hcopy
        exact IotcRet.noConfusion
  unfold dfxAnonymizeStr at hok
  rw [if_neg hmem] at hok
  dsimp only at hok
  rw [if_pos hret, Prod.mk.injEq] at hok
  cases hok.2

/-- The slots are not exceeded and the accepted strings are anonymised within their own length exactly if there are at
most six pieces between `:` and four between `.`, up to the first that is too long, and, for a string that is accepted,
`IotcCalloc` has a copy of it. -/
theorem anonymizerSafe_iff (s : CString) :
    AnonymizerSafe s ↔
      (copiedPieces macFormat.cap (macFormat.pieces s.chars)).length ≤ 6 ∧
      (copiedPieces ipFormat.cap (ipFormat.pieces s.chars)).length ≤ 4 ∧
      ((∃ type, Accepts s type) → s.chars.length + 1 ≤ iotcMaxMallocSize) := by
  have hslots : ∀ f rest, slotsWritten f (s.chars ++ 0 :: rest) = (copiedPieces f.cap (f.pieces s.chars)).length := by
    intro f rest
    rw [slotsWritten, cstr_append s.noNul, f.loop_units]
  constructor
  · intro h
    refine ⟨hslots macFormat [] ▸ h.mac [], hslots ipFormat [] ▸ h.ip [], fun ⟨type, haccepts⟩ => ?_⟩
    by_contra hlong
    exact not_succeeds_of_long (Nat.not_le.mp hlong) type (h.fits type haccepts)
  · rintro ⟨hmac, hip, hmax⟩
    exact ⟨fun rest => (hslots _ rest).trans_le hmac, fun rest => (hslots _ rest).trans_le hip,
      fun type haccepts => succeeds_of_accepts (hmax ⟨type, haccepts⟩) haccepts⟩

/-- `"a:b:c:d:e:f:g"` -/
def sevenUnits : CString := ⟨[97, 58, 98, 58, 99, 58, 100, 58, 101, 58, 102, 58, 103], by decide⟩

theorem seventh_slot_written : ¬ AnonymizerSafe sevenUnits := by
  intro h
  have hmac := h.mac []
  revert hmac
  decide

end IotConnect.Dfx
