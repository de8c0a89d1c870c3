import IotConnect.Dfx.Anonymize

/-! # What an anonymised buffer still shows

Two strings that differ only where the rule of the type masks them should leave the same buffer. The function rewrites
the copy of the string in place: what is behind the terminator of a shorter result is still that of the source, and
after a failure in the units the whole source is there, with terminators in place of some separators. `overwritten` is
how much of the source a call overwrites. -/
namespace IotConnect.Dfx
set_option autoImplicit false

/-! ## Views -/

/-- A masked character is `none`. -/
def rangeView (s : List UInt8) (start stop : ℕ) : List (Option UInt8) :=
  (s.take start).map some ++ List.replicate (stop + 1 - start) none ++ (s.drop (stop + 1)).map some

def allMasked (s : List UInt8) : List (Option UInt8) := List.replicate s.length none

/-- `i` is the number of the unit, `inUnit` whether a character of it was read. -/
def unitView (d : UInt8) (hidden : ℕ → Bool) : ℕ → Bool → List UInt8 → List (Option UInt8)
  | _, _, [] => []
  | i, inUnit, c :: rest =>
    if c = d then some c :: unitView d hidden (if inUnit then i + 1 else i) false rest
    else (if hidden i then none else some c) :: unitView d hidden i true rest

/-- The units that are not printed. -/
def hiddenUnits : AnonymizeType → ℕ → Bool
  | .mac, i => i = 3 ∨ i = 4
  | _, i => i = 1 ∨ i = 2

instance (f : UnitFormat) (s : List UInt8) : Decidable (f.WellFormed s) :=
  inferInstanceAs (Decidable (_ ∧ _))

/-- What the rule of the type leaves visible: the characters outside the range, the separators and the units that are
printed, and nothing of a string without a rule or with the wrong units. -/
def view (type : AnonymizeType) (s : List UInt8) : List (Option UInt8) :=
  if type.isRange then
    match maskRange s.length type with
    | none => allMasked s
    | some (a, b) => rangeView s a.toNat b.toNat
  else if type.format.WellFormed s then unitView type.format.d (hiddenUnits type) 0 false s
  else allMasked s

/-- How many bytes of the source are overwritten in a buffer of `bufLen` bytes; all of them if it is not copied. -/
def overwritten (type : AnonymizeType) (bufLen : ℕ) (s : List UInt8) : ℕ :=
  if securecStringMaxLen < bufLen ∨ bufLen ≤ s.length then s.length
  else if type.isRange then
    match maskRange s.length type with
    | none => 0
    | some (a, b) => (replaced s a.toNat b.toNat).length + 1
  else if type.format.WellFormed s then
    if (type.format.output s).length < bufLen then (type.format.output s).length + 1 else s.length
  else 0

/-! ## Ranges -/

theorem rangeView_inj {s t : List UInt8} (hlen : s.length = t.length) {start stop : ℕ}
    (h : rangeView s start stop = rangeView t start stop) :
    s.take start = t.take start ∧ s.drop (stop + 1) = t.drop (stop + 1) := by
  unfold rangeView at h
  have htake : ((s.take start).map some).length = ((t.take start).map some).length := by
    rw [List.length_map, List.length_map, List.length_take, List.length_take, hlen]
  rw [List.append_assoc, List.append_assoc] at h
  obtain ⟨hfront, hback⟩ := List.append_inj h htake
  obtain ⟨-, hback⟩ := List.append_inj hback rfl
  exact ⟨List.map_injective_iff.mpr (fun _ _ => Option.some.inj) hfront,
    List.map_injective_iff.mpr (fun _ _ => Option.some.inj) hback⟩

theorem drop_append_iff {s t rest : List UInt8} (hlen : s.length = t.length) (n : ℕ) :
    (s ++ rest).drop n = (t ++ rest).drop n ↔ s.drop n = t.drop n := by
  rw [List.drop_append, List.drop_append, hlen, List.append_left_inj]

/-! ## Units -/

/-- Two loops over strings with the same view. -/
structure SameUnits (hidden : ℕ → Bool) (i : ℕ) (s t : List UInt8) (r r' : Units) : Prop where
  ok : r.ok = r'.ok
  length : r.units.length = r'.units.length
  units : ∀ j, hidden (i + j) = false → r.units.getD j [] = r'.units.getD j []
  text : ∀ k, s.drop k = t.drop k → r.text.drop k = r'.text.drop k

theorem unitView_length (d : UInt8) (hidden : ℕ → Bool) (i : ℕ) (inUnit : Bool) (s : List UInt8) :
    (unitView d hidden i inUnit s).length = s.length := by
  induction s generalizing i inUnit with
  | nil => rfl
  | cons c rest ih =>
    unfold unitView
    split_ifs <;> exact congrArg (· + 1) (ih _ _)

/-- The heads of two equal views: both are separators, or none is and they agree unless they are masked. -/
theorem unitView_cons {d : UInt8} {hidden : ℕ → Bool} {i : ℕ} {inUnit : Bool} {c c' : UInt8} {s t : List UInt8}
    (h : unitView d hidden i inUnit (c :: s) = unitView d hidden i inUnit (c' :: t)) :
    c = d ∧ c' = d ∧ unitView d hidden (if inUnit then i + 1 else i) false s =
        unitView d hidden (if inUnit then i + 1 else i) false t ∨
      c ≠ d ∧ c' ≠ d ∧ (hidden i = false → c = c') ∧ unitView d hidden i true s = unitView d hidden i true t := by
  unfold unitView at h
  by_cases hc : c = d
  · by_cases hc' : c' = d
    · rw [if_pos hc, if_pos hc', List.cons.injEq] at h
      exact .inl ⟨hc, hc', h.2⟩
    · rw [if_pos hc, if_neg hc', List.cons.injEq] at h
      obtain ⟨hhead, -⟩ := h
      split_ifs at hhead
      exact absurd (Option.some.inj hhead ▸ hc) hc'
  · by_cases hc' : c' = d
    · rw [if_neg hc, if_pos hc', List.cons.injEq] at h
      obtain ⟨hhead, -⟩ := h
      split_ifs at hhead
      exact absurd (Option.some.inj hhead ▸ hc') hc
    · rw [if_neg hc, if_neg hc', List.cons.injEq] at h
      refine .inr ⟨hc, hc', fun hhidden => ?_, h.2⟩
      rw [hhidden] at h
      exact Option.some.inj h.1

theorem drop_cons_of {c c' x x' : UInt8} {s t u u' : List UInt8} (hx : c = c' → x = x')
    (h : ∀ k, s.drop k = t.drop k → u.drop k = u'.drop k) (k : ℕ) (hk : (c :: s).drop k = (c' :: t).drop k) :
    (x :: u).drop k = (x' :: u').drop k := by
  cases k with
  | zero =>
    obtain ⟨hc, hs⟩ := List.cons.inj hk
    exact congrArg₂ List.cons (hx hc) (h 0 hs)
  | succ k => exact h k hk

theorem sameUnits_of_view {d : UInt8} (cap : ℕ) {hidden : ℕ → Bool} {s t cur cur' : List UInt8} {i : ℕ}
    (hview : unitView d hidden i (decide (cur ≠ [])) s = unitView d hidden i (decide (cur ≠ [])) t)
    (hlen : cur.length = cur'.length) (hcur : hidden i = false → cur = cur') :
    SameUnits hidden i s t (unitLoop d cap cur s) (unitLoop d cap cur' t) := by
  have hempty : cur = [] ↔ cur' = [] := by
    rw [← List.length_eq_zero_iff, ← List.length_eq_zero_iff, hlen]
  induction s generalizing t cur cur' i with
  | nil =>
    have ht : t = [] := by
      have hlength := congrArg List.length hview
      rw [unitView_length, unitView_length] at hlength
      exact List.length_eq_zero_iff.mp hlength.symm
    subst ht
    unfold unitLoop
    by_cases h : cur = []
    · rw [if_pos h, if_pos (hempty.mp h)]
      exact ⟨rfl, rfl, fun _ _ => rfl, fun _ _ => rfl⟩
    · rw [if_neg h, if_neg (mt hempty.mpr h), hlen]
      refine ⟨rfl, rfl, fun j hj => ?_, fun _ _ => rfl⟩
      cases j with
      | zero => exact hcur hj
      | succ j => rfl
  | cons c rest ih =>
    cases t with
    | nil =>
      have hlength := congrArg List.length hview
      rw [unitView_length, unitView_length] at hlength
      cases hlength
    | cons c' rest' =>
      rcases unitView_cons hview with ⟨hc, hc', htail⟩ | ⟨hc, hc', hsame, htail⟩
      · unfold unitLoop
        rw [if_neg (not_not.mpr hc), if_neg (not_not.mpr hc')]
        by_cases h : cur = []
        · rw [if_pos h, if_pos (hempty.mp h)]
          rw [decide_eq_false (not_not.mpr h), if_neg Bool.false_ne_true] at htail
          have hrest : SameUnits hidden i rest rest' (unitLoop d cap [] rest) (unitLoop d cap [] rest') :=
            ih htail rfl (fun _ => rfl) Iff.rfl
          exact ⟨hrest.ok, hrest.length, hrest.units, drop_cons_of id hrest.text⟩
        · rw [if_neg h, if_neg (mt hempty.mpr h), ← hlen]
          rw [decide_eq_true h, if_pos rfl] at htail
          by_cases hcap : cur.length < cap
          · rw [if_pos hcap, if_pos hcap]
            have hrest : SameUnits hidden (i + 1) rest rest' (unitLoop d cap [] rest) (unitLoop d cap [] rest') :=
              ih htail rfl (fun _ => rfl) Iff.rfl
            refine ⟨hrest.ok, congrArg (· + 1) hrest.length, fun j hj => ?_, drop_cons_of (fun _ => rfl) hrest.text⟩
            cases j with
            | zero => exact hcur hj
            | succ j => exact hrest.units j (by rw [Nat.add_assoc, Nat.add_comm 1 j]; exact hj)
          · rw [if_neg hcap, if_neg hcap]
            refine ⟨rfl, rfl, fun j hj => ?_, drop_cons_of (fun _ => rfl) fun _ hk => hk⟩
            cases j with
            | zero => exact hcur hj
            | succ j => rfl
      · unfold unitLoop
        rw [if_pos hc, if_pos hc']
        have hne : cur ++ [c] ≠ [] := List.append_ne_nil_of_right_ne_nil _ (List.cons_ne_nil _ _)
        have hrest : SameUnits hidden i rest rest' (unitLoop d cap (cur ++ [c]) rest)
            (unitLoop d cap (cur' ++ [c']) rest') :=
          ih (by rw [decide_eq_true hne]; exact htail) (by rw [List.length_append, List.length_append, hlen]; rfl)
            (fun hi => by rw [hcur hi, hsame hi]) (by simp)
        exact ⟨hrest.ok, hrest.length, hrest.units, drop_cons_of id hrest.text⟩

/-- The separators come back if the terminators are read as separators. -/
theorem unitLoop_text_map (d : UInt8) (cap : ℕ) {s : List UInt8} (hs : 0 ∉ s) (cur : List UInt8) :
    (unitLoop d cap cur s).text.map (fun c => if c = 0 then d else c) = s := by
  induction s generalizing cur with
  | nil =>
    unfold unitLoop
    split_ifs <;> rfl
  | cons c rest ih =>
    have hc : 0 ≠ c := fun h0 => hs (h0 ▸ List.mem_cons_self)
    have hrest : 0 ∉ rest := fun h0 => hs (List.mem_cons_of_mem c h0)
    have hkeep : ∀ x ∈ rest, (if x = 0 then d else x) = x := fun x hx =>
      if_neg fun (h0 : x = 0) => hrest (h0 ▸ hx)
    unfold unitLoop
    split_ifs with hd hcur hcap
    · dsimp only
      rw [List.map_cons, if_neg (Ne.symm hc), ih hrest]
    · dsimp only
      rw [List.map_cons, if_neg (Ne.symm hc), ih hrest]
    · dsimp only
      rw [List.map_cons, if_pos rfl, ih hrest, not_not.mp hd]
    · dsimp only
      rw [List.map_cons, if_pos rfl, List.map_congr_left hkeep, List.map_id', not_not.mp hd]

theorem text_drop_of {d : UInt8} {cap : ℕ} {s t : List UInt8} (hs : 0 ∉ s) (ht : 0 ∉ t) {k : ℕ}
    (h : (unitLoop d cap [] s).text.drop k = (unitLoop d cap [] t).text.drop k) : s.drop k = t.drop k := by
  have hmap := congrArg (List.map fun c => if c = 0 then d else c) h
  rw [List.map_drop, List.map_drop, unitLoop_text_map d cap hs, unitLoop_text_map d cap ht] at hmap
  exact hmap

/-! ## Two sources -/

/-- Strings of one length that differ in masked characters only leave the same buffer. -/
def SameOutput (type : AnonymizeType) (dst : List UInt8) (s t : CString) : Prop :=
  s.chars.length = t.chars.length → view type s.chars = view type t.chars →
    (dfxAnonymizeStrWithBuffer s type dst).2 = (dfxAnonymizeStrWithBuffer t type dst).2

/-- They agree where the source is not overwritten. -/
def SameRest (type : AnonymizeType) (dst : List UInt8) (s t : CString) : Prop :=
  s.chars.length = t.chars.length → view type s.chars = view type t.chars →
    s.chars.drop (overwritten type dst.length s.chars) = t.chars.drop (overwritten type dst.length s.chars)

section
variable {type : AnonymizeType} {s t : CString} (hlen : s.chars.length = t.chars.length)
include hlen

theorem range_output_iff (h : type.isRange = true) (hview : view type s.chars = view type t.chars) {rest : List UInt8}
    (hmax : (s.chars ++ 0 :: rest).length ≤ securecStringMaxLen) :
    (anonymizeFuncTbl type (s.chars ++ 0 :: rest)).2 = (anonymizeFuncTbl type (t.chars ++ 0 :: rest)).2 ↔
      match maskRange s.chars.length type with
      | none => s.chars = t.chars
      | some (a, b) => s.chars.drop ((replaced s.chars a.toNat b.toNat).length + 1) =
          t.chars.drop ((replaced s.chars a.toNat b.toNat).length + 1) := by
  unfold view at hview
  rw [if_pos h, if_pos h, ← hlen] at hview
  rw [anonymizeFuncTbl_range h s.noNul, anonymizeFuncTbl_range h t.noNul, ← hlen]
  cases hmask : maskRange s.chars.length type with
  | none => exact List.append_left_inj _
  | some range =>
    obtain ⟨a, b⟩ := range
    rw [hmask] at hview
    obtain ⟨ha, hab, hb⟩ := maskRange_within hmask
    have hmax' : (t.chars ++ 0 :: rest).length ≤ securecStringMaxLen := by
      rw [List.length_append, ← hlen, ← List.length_append]
      exact hmax
    obtain ⟨htake, hdrop⟩ := rangeView_inj hlen hview
    have hsame : replaced t.chars a.toNat b.toNat = replaced s.chars a.toNat b.toNat := by
      unfold replaced
      rw [htake, hdrop]
    unfold replaceRange
    dsimp only at ha hab hb ⊢
    rw [utilsReplaceStrWithRange_eq s.noNul hmax ha hab hb,
      utilsReplaceStrWithRange_eq t.noNul hmax' ha hab (hlen ▸ hb), hsame]
    dsimp only
    rw [List.append_right_inj, List.cons.injEq, eq_self_iff_true, true_and, drop_append_iff hlen]

end

theorem format_num_pos (type : AnonymizeType) : type.format.num ≠ 0 := by
  cases type <;> decide

theorem unitView_ne_allMasked {type : AnonymizeType} {s : List UInt8} (h : type.format.WellFormed s) (t : List UInt8) :
    unitView type.format.d (hiddenUnits type) 0 false s ≠ allMasked t := by
  intro heq
  cases s with
  | nil => exact format_num_pos type h.2.symm
  | cons c rest =>
    have hmem : some c ∈ allMasked t := by
      rw [← heq]
      have hfirst : hiddenUnits type 0 = false := by cases type <;> decide
      unfold unitView
      simp only [hfirst, Bool.false_eq_true, if_false]
      split_ifs <;> exact List.mem_cons_self
    cases List.eq_of_mem_replicate hmem

theorem view_units {type : AnonymizeType} (h : type.isRange = false) (s : List UInt8) :
    view type s =
      if type.format.WellFormed s then unitView type.format.d (hiddenUnits type) 0 false s else allMasked s := by
  rw [view, h, if_neg Bool.false_ne_true]

theorem wellFormed_congr {type : AnonymizeType} {s t : List UInt8} (h : type.isRange = false)
    (hview : view type s = view type t) : type.format.WellFormed s ↔ type.format.WellFormed t := by
  rw [view_units h, view_units h] at hview
  constructor
  · intro hs
    by_contra ht
    rw [if_pos hs, if_neg ht] at hview
    exact unitView_ne_allMasked hs t hview
  · intro ht
    by_contra hs
    rw [if_neg hs, if_pos ht] at hview
    exact unitView_ne_allMasked ht s hview.symm

theorem output_congr {type : AnonymizeType} (h : type.isRange = false) {s t : List UInt8}
    (hunits : SameUnits (hiddenUnits type) 0 s t (type.format.loop s) (type.format.loop t)) :
    type.format.output s = type.format.output t := by
  unfold UnitFormat.output
  cases type with
  | mac =>
    unfold AnonymizeType.format macFormat at *
    dsimp only at *
    rw [hunits.units 0 (by decide), hunits.units 1 (by decide), hunits.units 2 (by decide), hunits.units 5 (by decide)]
  | ip =>
    unfold AnonymizeType.format ipFormat at *
    dsimp only at *
    rw [hunits.units 0 (by decide), hunits.units 3 (by decide)]
  | _ => cases h

theorem sprintfS_short {dst dst' out : List UInt8} (hlen : dst.length = dst'.length) (h : dst.length ≤ out.length) :
    sprintfS dst out = sprintfS dst' out := by
  unfold sprintfS
  rw [if_pos h, if_pos (hlen ▸ h), hlen]

theorem units_output_iff {type : AnonymizeType} {s t : CString} (hlen : s.chars.length = t.chars.length)
    (h : type.isRange = false) (hview : view type s.chars = view type t.chars) (rest : List UInt8) :
    (anonymizeFuncTbl type (s.chars ++ 0 :: rest)).2 = (anonymizeFuncTbl type (t.chars ++ 0 :: rest)).2 ↔
      if type.format.WellFormed s.chars then
        (type.format.output s.chars).length < (s.chars ++ 0 :: rest).length →
          s.chars.drop ((type.format.output s.chars).length + 1) = t.chars.drop ((type.format.output s.chars).length + 1)
      else s.chars = t.chars := by
  rw [anonymizeFuncTbl_units h]
  have hwell := wellFormed_congr h hview
  have htext : (type.format.loop s.chars).text.length = (type.format.loop t.chars).text.length := by
    unfold UnitFormat.loop
    rw [unitLoop_text_length, unitLoop_text_length, hlen]
  by_cases hs : type.format.WellFormed s.chars
  · rw [if_pos hs, unitsAnonymizeStr_wellFormed _ s.noNul rest hs,
      unitsAnonymizeStr_wellFormed _ t.noNul rest (hwell.mp hs)]
    rw [view_units h, view_units h, if_pos hs, if_pos (hwell.mp hs)] at hview
    have hunits : SameUnits (hiddenUnits type) 0 s.chars t.chars (type.format.loop s.chars)
        (type.format.loop t.chars) := sameUnits_of_view type.format.cap hview rfl fun _ => rfl
    have hbuf : ((type.format.loop s.chars).text ++ 0 :: rest).length = (s.chars ++ 0 :: rest).length := by
      rw [List.length_append, List.length_append, UnitFormat.loop, unitLoop_text_length]
    have hbuf' : ((type.format.loop s.chars).text ++ 0 :: rest).length =
        ((type.format.loop t.chars).text ++ 0 :: rest).length := by
      rw [List.length_append, List.length_append, htext]
    rw [← output_congr h hunits, ← hbuf]
    by_cases hfits : (type.format.output s.chars).length < ((type.format.loop s.chars).text ++ 0 :: rest).length
    · rw [sprintfS_fits hfits, sprintfS_fits (hbuf' ▸ hfits)]
      dsimp only
      rw [List.append_right_inj, List.cons.injEq, eq_self_iff_true, true_and, drop_append_iff htext]
      exact ⟨fun heq _ => text_drop_of s.noNul t.noNul heq, fun hdrop => hunits.text _ (hdrop hfits)⟩
    · rw [sprintfS_short hbuf' (Nat.not_lt.mp hfits)]
      exact ⟨fun _ hlt => absurd hlt hfits, fun _ => rfl⟩
  · rw [if_neg hs, unitsAnonymizeStr_malformed _ s.noNul rest hs,
      unitsAnonymizeStr_malformed _ t.noNul rest (mt hwell.mpr hs), List.append_left_inj]
    constructor
    · intro heq
      exact @text_drop_of _ type.format.cap _ _ s.noNul t.noNul 0 heq
    · intro heq
      rw [heq]

/-- Two strings of one length with the same view leave the same buffer exactly if they agree behind the bytes that the
call overwrites. -/
theorem sameOutput_iff (type : AnonymizeType) (dst : List UInt8) (s t : CString) :
    SameOutput type dst s t ↔ SameRest type dst s t := by
  refine imp_congr_right fun hlen => imp_congr_right fun hview => ?_
  unfold dfxAnonymizeStrWithBuffer overwritten strcpyS
  rw [← hlen]
  by_cases hcopy : securecStringMaxLen < dst.length ∨ dst.length ≤ s.chars.length
  · rw [if_pos hcopy, List.drop_length, hlen, List.drop_length]
    refine iff_of_true ?_ rfl
    rcases hcopy with hmax | hshort
    · rw [if_pos hmax]
      split_ifs <;> rfl
    · rw [hlen] at hshort
      split_ifs <;> rfl
  · obtain ⟨hmax, hshort⟩ := not_or.mp hcopy
    have hpos : dst.length ≠ 0 := by omega
    rw [if_neg hcopy, if_neg hpos, if_neg hpos, if_neg hmax, if_neg hmax, if_neg hshort, if_neg hshort]
    dsimp only
    have hlength : (s.chars ++ 0 :: dst.drop (s.chars.length + 1)).length = dst.length := by
      rw [List.length_append, List.length_cons, List.length_drop]
      omega
    cases hrange : type.isRange with
    | true =>
      rw [if_pos rfl, range_output_iff hlen hrange hview (by omega)]
      cases maskRange s.chars.length type with
      | none => exact Iff.rfl
      | some range => exact Iff.rfl
    | false =>
      rw [if_neg Bool.false_ne_true, units_output_iff hlen hrange hview, hlength]
      split_ifs with hwell hfits
      · exact ⟨fun h => h hfits, fun h _ => h⟩
      · rw [List.drop_length, hlen, List.drop_length]
        exact ⟨fun _ => rfl, fun _ hlt => absurd hlt hfits⟩
      · exact Iff.rfl

/-- Serial strings of seven characters, the last of which is masked. -/
def lastMasked (c : UInt8) (h : 0 ≠ c) : CString := ⟨[48, 48, 48, 48, 48, 48, c], by simpa using h⟩

/-- The masked character is still behind the terminator. -/
theorem masked_character_left :
    let s := lastMasked 49 (by decide)
    let t := lastMasked 50 (by decide)
    view .id s.chars = view .id t.chars ∧
      dfxAnonymizeStrWithBuffer s .id (List.replicate 8 0) = (.ok, [48, 48, 48, 48, 42, 0, 49, 0]) ∧
      ¬ SameOutput .id (List.replicate 8 0) s t := by
  refine ⟨by decide, by decide, fun h => ?_⟩
  have hsame := h rfl (by decide)
  revert hsame
  decide

end IotConnect.Dfx
