import Mathlib.Data.List.Nodup

/-! # Linked lists searched by a key

The operations of an intrusive linked list: find the first element with a property, write through
the pointer that was found, unlink it, sweep out the elements that lost a property. Two lists that
correspond element by element stay so when both are worked on with matching properties. An `Edit` is
what one call does to such a list. -/
namespace IotConnect.Keyed
set_option autoImplicit false

variable {α β : Type}

/-- Write `x` over the first element that satisfies `p`. -/
def replaceFirst (p : α → Bool) (x : α) : List α → List α
  | [] => []
  | a :: l => if p a then x :: l else a :: replaceFirst p x l

section Forall2
variable {R : α → β → Prop} {p : α → Bool} {q : β → Bool} {l : List α} {l' : List β}

theorem forall₂_find? (h : List.Forall₂ R l l') (hpq : ∀ a b, R a b → p a = q b) :
    (l.find? p = none ∧ l'.find? q = none) ∨
      ∃ a b, l.find? p = some a ∧ l'.find? q = some b ∧ R a b := by
  induction h with
  | nil => exact .inl ⟨rfl, rfl⟩
  | @cons a b l l' hab _ ih =>
    rw [List.find?_cons, List.find?_cons, ← hpq a b hab]
    cases p a with
    | true => exact .inr ⟨a, b, rfl, rfl, hab⟩
    | false => exact ih

theorem forall₂_replaceFirst (h : List.Forall₂ R l l') (hpq : ∀ a b, R a b → p a = q b) {x : α} {y : β}
    (hxy : R x y) : List.Forall₂ R (replaceFirst p x l) (replaceFirst q y l') := by
  induction h with
  | nil => exact .nil
  | @cons a b l l' hab hl ih =>
    rw [replaceFirst, replaceFirst, ← hpq a b hab]
    cases p a with
    | true => exact .cons hxy hl
    | false => exact .cons hab ih

theorem forall₂_eraseP (h : List.Forall₂ R l l') (hpq : ∀ a b, R a b → p a = q b) :
    List.Forall₂ R (l.eraseP p) (l'.eraseP q) := by
  induction h with
  | nil => exact .nil
  | @cons a b l l' hab hl ih =>
    rw [List.eraseP_cons, List.eraseP_cons, ← hpq a b hab]
    cases p a with
    | true => exact hl
    | false => exact .cons hab ih

theorem forall₂_filter (h : List.Forall₂ R l l') (hpq : ∀ a b, R a b → p a = q b) :
    List.Forall₂ R (l.filter p) (l'.filter q) := by
  induction h with
  | nil => exact .nil
  | @cons a b l l' hab hl ih =>
    rw [List.filter_cons, List.filter_cons, ← hpq a b hab]
    cases p a with
    | true => exact .cons hab ih
    | false => exact ih

theorem forall₂_snoc (h : List.Forall₂ R l l') {x : α} {y : β} (hxy : R x y) :
    List.Forall₂ R (l ++ [x]) (l' ++ [y]) := by
  induction h with
  | nil => exact .cons hxy .nil
  | cons hab _ ih => exact .cons hab ih

end Forall2

theorem length_replaceFirst (p : α → Bool) (x : α) (l : List α) : (replaceFirst p x l).length = l.length := by
  induction l with
  | nil => rfl
  | cons a l ih =>
    rw [replaceFirst]
    cases p a with
    | true => rfl
    | false => simpa using ih

variable {p : α → Bool} {x y : α} {l : List α}

theorem mem_replaceFirst (h : y ∈ replaceFirst p x l) : y = x ∨ y ∈ l := by
  induction l with
  | nil => cases h
  | cons a l ih =>
    rw [replaceFirst] at h
    cases hp : p a with
    | true =>
      rw [hp, if_pos rfl, List.mem_cons] at h
      exact h.imp_right (List.mem_cons_of_mem a)
    | false =>
      rw [hp, if_neg Bool.false_ne_true, List.mem_cons] at h
      rcases h with rfl | h
      · exact .inr List.mem_cons_self
      · exact (ih h).imp_right (List.mem_cons_of_mem a)

section Distinct
variable {κ : Type} [DecidableEq κ] {key : α → κ} {l : List α} {k : κ}

theorem mem_eraseP_key (h : (l.map key).Nodup) {a : α} :
    a ∈ l.eraseP (fun x => key x = k) ↔ a ∈ l ∧ key a ≠ k := by
  induction l with
  | nil => simp
  | cons b l ih =>
    obtain ⟨hb, hl⟩ := List.nodup_cons.mp (List.map_cons ▸ h)
    by_cases hk : key b = k
    · rw [List.eraseP_cons_of_pos (by simp [hk])]
      constructor
      · intro ha
        refine ⟨List.mem_cons_of_mem b ha, ?_⟩
        rintro rfl
        exact hb (hk ▸ List.mem_map_of_mem ha)
      · rintro ⟨ha, hne⟩
        exact (List.mem_cons.mp ha).resolve_left fun heq => hne (heq ▸ hk)
    · rw [List.eraseP_cons_of_neg (by simp [hk]), List.mem_cons, List.mem_cons, ih hl]
      constructor
      · rintro (rfl | ⟨ha, hne⟩)
        · exact ⟨.inl rfl, hk⟩
        · exact ⟨.inr ha, hne⟩
      · rintro ⟨rfl | ha, hne⟩
        · exact .inl rfl
        · exact .inr ⟨ha, hne⟩

theorem mem_replaceFirst_key (h : (l.map key).Nodup) (hk : k ∈ l.map key) {x a : α} :
    a ∈ replaceFirst (fun x => key x = k) x l ↔ a = x ∨ a ∈ l ∧ key a ≠ k := by
  induction l with
  | nil => cases hk
  | cons b l ih =>
    obtain ⟨hb, hl⟩ := List.nodup_cons.mp (List.map_cons ▸ h)
    rw [replaceFirst]
    by_cases hbk : key b = k
    · rw [if_pos (decide_eq_true hbk), List.mem_cons, List.mem_cons]
      constructor
      · rintro (rfl | ha)
        · exact .inl rfl
        · refine .inr ⟨.inr ha, ?_⟩
          rintro rfl
          exact hb (hbk ▸ List.mem_map_of_mem ha)
      · rintro (rfl | ⟨rfl | ha, hne⟩)
        · exact .inl rfl
        · exact absurd hbk hne
        · exact .inr ha
    · have hk' : k ∈ l.map key := (List.mem_cons.mp (List.map_cons ▸ hk)).resolve_left fun heq => hbk heq.symm
      rw [if_neg (by simp [hbk]), List.mem_cons, List.mem_cons, ih hl hk']
      constructor
      · rintro (rfl | rfl | ⟨ha, hne⟩)
        · exact .inr ⟨.inl rfl, hbk⟩
        · exact .inl rfl
        · exact .inr ⟨.inr ha, hne⟩
      · rintro (rfl | ⟨rfl | ha, hne⟩)
        · exact .inr (.inl rfl)
        · exact .inl rfl
        · exact .inr (.inr ⟨ha, hne⟩)

end Distinct

theorem replaceFirst_append_right (l' : List α) (h : ∀ a ∈ l, ¬ p a = true) :
    replaceFirst p x (l ++ l') = l ++ replaceFirst p x l' := by
  induction l with
  | nil => rfl
  | cons a l ih =>
    rw [List.cons_append, replaceFirst, if_neg (h a List.mem_cons_self)]
    rw [ih fun b hb => h b (List.mem_cons_of_mem a hb), List.cons_append]

theorem replaceFirst_append_left (l' : List α) (h : ∃ a ∈ l, p a = true) :
    replaceFirst p x (l ++ l') = replaceFirst p x l ++ l' := by
  induction l with
  | nil => simp at h
  | cons a l ih =>
    rw [List.cons_append, replaceFirst, replaceFirst]
    by_cases hp : p a = true
    · rw [if_pos hp, if_pos hp, List.cons_append]
    · obtain ⟨b, hb, hpb⟩ := h
      have hb' : b ∈ l := (List.mem_cons.mp hb).resolve_left fun hba => hp (hba ▸ hpb)
      rw [if_neg hp, if_neg hp, ih ⟨b, hb', hpb⟩, List.cons_append]

theorem find?_replaceFirst_self (h : (l.find? p).isSome = true)
    (hx : p x = true) : (replaceFirst p x l).find? p = some x := by
  induction l with
  | nil => cases h
  | cons a l ih =>
    rw [replaceFirst]
    by_cases hp : p a = true
    · rw [if_pos hp, List.find?_cons_of_pos hx]
    · rw [if_neg hp, List.find?_cons_of_neg hp]
      rw [List.find?_cons_of_neg hp] at h
      exact ih h

theorem find?_replaceFirst_of_not {q : α → Bool} (h : ∀ a, p a = true → ¬ q a = true)
    (hx : ¬ q x = true) : (replaceFirst p x l).find? q = l.find? q := by
  induction l with
  | nil => rfl
  | cons a l ih =>
    rw [replaceFirst]
    by_cases hp : p a = true
    · rw [if_pos hp, List.find?_cons_of_neg hx, List.find?_cons_of_neg (h a hp)]
    · rw [if_neg hp, List.find?_cons, List.find?_cons, ih]

theorem map_replaceFirst {f : α → β} (h : l.find? p = some x)
    (hxy : f y = f x) : (replaceFirst p y l).map f = l.map f := by
  induction l with
  | nil => rfl
  | cons a l ih =>
    rw [replaceFirst]
    by_cases hp : p a = true
    · obtain rfl : a = x := by simpa [List.find?_cons_of_pos hp] using h
      rw [if_pos hp, List.map_cons, List.map_cons, hxy]
    · rw [List.find?_cons_of_neg hp] at h
      rw [if_neg hp, List.map_cons, List.map_cons, ih h]

theorem length_filter_add_countP (p : α → Bool) (l : List α) :
    (l.filter p).length + l.countP (fun a => !p a) = l.length := by
  induction l with
  | nil => rfl
  | cons a l ih =>
    rw [List.filter_cons, List.countP_cons, List.length_cons]
    cases p a <;> simp <;> omega

/-! ## Writing to the elements of one key -/

section EditAt
variable {κ : Type} [DecidableEq κ] {key : α → κ} {l : List α} {k : κ} {f : α → α}

theorem find?_key_of_mem (h : (l.map key).Nodup) {a : α} (ha : a ∈ l) : l.find? (fun b => key b = key a) = some a := by
  cases hfind : l.find? fun b => key b = key a with
  | none => exact absurd (decide_eq_true rfl) (List.find?_eq_none.mp hfind a ha)
  | some b =>
    have hkey : key b = key a := by simpa using List.find?_some hfind
    rw [List.inj_on_of_nodup_map h (List.mem_of_find?_eq_some hfind) ha hkey]

theorem countP_key_of_notMem (hk : k ∉ l.map key) (q : α → Bool) : l.countP (fun a => key a = k && q a) = 0 := by
  rw [List.countP_eq_zero]
  intro a ha hq
  rw [Bool.and_eq_true, decide_eq_true_iff] at hq
  exact hk (hq.1 ▸ List.mem_map_of_mem ha)

theorem countP_key (h : (l.map key).Nodup) {a : α} (ha : a ∈ l) (q : α → Bool) :
    l.countP (fun b => key b = key a && q b) = if q a then 1 else 0 := by
  induction l with
  | nil => cases ha
  | cons b l ih =>
    obtain ⟨hb, hl⟩ := List.nodup_cons.mp (List.map_cons ▸ h)
    rw [List.countP_cons]
    rcases List.mem_cons.mp ha with rfl | ha
    · rw [countP_key_of_notMem hb, Nat.zero_add]
      simp
    · have hne : key b ≠ key a := fun heq => hb (heq ▸ List.mem_map_of_mem ha)
      rw [ih hl ha]
      simp [hne]

omit [DecidableEq κ] in
theorem filterMap_keys_sublist {g : α → Option α} (hg : ∀ a b, g a = some b → key b = key a) (l : List α) :
    ((l.filterMap g).map key).Sublist (l.map key) := by
  induction l with
  | nil => exact List.Sublist.refl _
  | cons a l ih =>
    cases hga : g a with
    | none =>
      rw [List.filterMap_cons_none hga]
      exact ih.cons _
    | some b =>
      rw [List.filterMap_cons_some hga, List.map_cons, List.map_cons, hg a b hga]
      exact ih.cons_cons _

end EditAt

/-! ## Edits -/

/-- What a call does to the first element with its property, or to the list. -/
inductive Edit (α : Type) where
  | keep
  | drop
  | write (x : α)
  | add (x : α)

def Edit.apply (p : α → Bool) (l : List α) : Edit α → List α
  | .keep => l
  | .drop => l.eraseP p
  | .write x => replaceFirst p x l
  | .add x => l ++ [x]

def Edit.new? : Edit α → Option α
  | .keep => none
  | .drop => none
  | .write x => some x
  | .add x => some x

theorem Edit.mem_apply {e : Edit α} (h : y ∈ e.apply p l) : y ∈ l ∨ e.new? = some y := by
  cases e with
  | keep => exact .inl h
  | drop => exact .inl (List.mem_of_mem_eraseP h)
  | write x =>
    rcases mem_replaceFirst h with rfl | h
    · exact .inr rfl
    · exact .inl h
  | add x =>
    rcases List.mem_append.mp h with h | h
    · exact .inl h
    · exact .inr (congrArg some (List.mem_singleton.mp h).symm)

/-! ## Sublists

What is seen of a list through a filter `q`: an edit at elements that pass `q` happens in the sublist, an edit
at elements that do not pass is not seen. -/

section Exact
variable {κ : Type} {key : α → κ} {p q : α → Bool} {l : List α}

/-- A search with a condition that is too weak finds what is meant exactly when each wrong element stands behind a right
one, and all right ones have one key. -/
theorem find?_exact_iff (hkeys : (l.map key).Nodup) (hpq : ∀ a, p a = true → q a = true) :
    (∀ k, (l.find? q).map key = some k ↔ ∃ a ∈ l, key a = k ∧ p a = true) ↔
      (∀ l₁ a l₂, l = l₁ ++ a :: l₂ → q a = true → p a = true ∨ ∃ b ∈ l₁, p b = true) ∧
        ∀ a ∈ l, ∀ b ∈ l, p a = true → p b = true → key a = key b := by
  constructor
  · intro hexact
    constructor
    · intro l₁ a l₂ hl hqa
      have hfound : l.find? q = (l₁.find? q).or (some a) := by
        rw [hl, List.find?_append, List.find?_cons_of_pos hqa]
      obtain ⟨x, hx, hplace⟩ : ∃ x, l.find? q = some x ∧ (x ∈ l₁ ∨ x = a) := by
        cases hfirst : l₁.find? q with
        | none => exact ⟨a, by rw [hfound, hfirst]; rfl, .inr rfl⟩
        | some x => exact ⟨x, by rw [hfound, hfirst]; rfl, .inl (List.mem_of_find?_eq_some hfirst)⟩
      -- what was found is the element that has the key and is right
      obtain ⟨b, hb, hkey, hpb⟩ := (hexact (key x)).mp (by rw [hx]; rfl)
      obtain rfl : b = x := List.inj_on_of_nodup_map hkeys hb (List.mem_of_find?_eq_some hx) hkey
      rcases hplace with hplace | rfl
      · exact .inr ⟨b, hplace, hpb⟩
      · exact .inl hpb
    · intro a ha b hb hpa hpb
      have hka := (hexact (key a)).mpr ⟨a, ha, rfl, hpa⟩
      have hkb := (hexact (key b)).mpr ⟨b, hb, rfl, hpb⟩
      exact Option.some.inj (hka.symm.trans hkb)
  · rintro ⟨hbehind, hone⟩ k
    cases hfound : l.find? q with
    | none =>
      refine ⟨nofun, ?_⟩
      rintro ⟨a, ha, -, hpa⟩
      exact absurd (hpq a hpa) (List.find?_eq_none.mp hfound a ha)
    | some x =>
      obtain ⟨hqx, l₁, l₂, hl, hbefore⟩ := List.find?_eq_some_iff_append.mp hfound
      have hpx : p x = true := by
        rcases hbehind l₁ x l₂ hl hqx with hpx | ⟨b, hb, hpb⟩
        · exact hpx
        · have hnot := hbefore b hb
          rw [hpq b hpb] at hnot
          cases hnot
      have hxl := List.mem_of_find?_eq_some hfound
      constructor
      · intro hk
        exact ⟨x, hxl, Option.some.inj hk, hpx⟩
      · rintro ⟨a, ha, rfl, hpa⟩
        exact congrArg some (hone x hxl a ha hpx hpa)

end Exact

end IotConnect.Keyed
