import Mathlib.Data.List.Nodup
import Mathlib.Data.List.Pairwise

/-! # Nested loops over lists

`loop f l s` executes `f` for the elements of `l` in order and returns early when `f` gives `false`. Nested loops are
one loop over the elements in the order in which they are visited (`loop_flatMap`), and a loop that skips elements is
a loop over the others (`loop_filter`). A list that is made of blocks is told apart by its blocks
(`flatMap_eq_iff`), and visiting the blocks in order, each one backwards, is the whole list backwards exactly when
there is at most one block (`flatMap_reverse_eq_iff`). -/
namespace IotConnect.Traverse
set_option autoImplicit false

section Loop
variable {σ α β : Type}

def loop (f : σ → α → σ × Bool) : List α → σ → σ × Bool
  | [], s => (s, true)
  | a :: l, s =>
    match f s a with
    | (s', true) => loop f l s'
    | (s', false) => (s', false)

theorem loop_cons_true {f : σ → α → σ × Bool} {a : α} {s s' : σ} (h : f s a = (s', true)) (l : List α) :
    loop f (a :: l) s = loop f l s' := by
  simp only [loop, h]

theorem loop_cons_false {f : σ → α → σ × Bool} {a : α} {s s' : σ} (h : f s a = (s', false)) (l : List α) :
    loop f (a :: l) s = (s', false) := by
  simp only [loop, h]

theorem loop_append (f : σ → α → σ × Bool) (l m : List α) (s : σ) :
    loop f (l ++ m) s =
      match loop f l s with
      | (s', true) => loop f m s'
      | (s', false) => (s', false) := by
  induction l generalizing s with
  | nil => rfl
  | cons a l ih =>
    rw [List.cons_append]
    rcases hf : f s a with ⟨s', _ | _⟩
    · rw [loop_cons_false hf, loop_cons_false hf]
    · rw [loop_cons_true hf, loop_cons_true hf, ih]

theorem loop_flatMap (f : σ → β → σ × Bool) (g : α → List β) (l : List α) (s : σ) :
    loop (fun s a => loop f (g a) s) l s = loop f (l.flatMap g) s := by
  induction l generalizing s with
  | nil => rfl
  | cons a l ih =>
    rw [List.flatMap_cons, loop_append]
    rcases hf : loop f (g a) s with ⟨s', _ | _⟩
    · exact loop_cons_false hf l
    · exact (loop_cons_true hf l).trans (ih s')

theorem loop_filter (f : σ → α → σ × Bool) (p : α → Bool) (l : List α) (s : σ) :
    loop (fun s a => if p a then f s a else (s, true)) l s = loop f (l.filter p) s := by
  induction l generalizing s with
  | nil => rfl
  | cons a l ih =>
    by_cases hp : p a = true
    · rw [List.filter_cons_of_pos hp]
      rcases hf : f s a with ⟨s', _ | _⟩
      · rw [loop_cons_false hf, loop_cons_false (by rw [if_pos hp, hf])]
      · rw [loop_cons_true hf, loop_cons_true (by rw [if_pos hp, hf]), ih]
    · rw [List.filter_cons_of_neg hp, loop_cons_true (by rw [if_neg hp]), ih]

theorem loop_map (f : σ → β → σ × Bool) (g : α → β) (l : List α) (s : σ) :
    loop f (l.map g) s = loop (fun s a => f s (g a)) l s := by
  induction l generalizing s with
  | nil => rfl
  | cons a l ih =>
    rw [List.map_cons]
    rcases hf : f s (g a) with ⟨s', _ | _⟩
    · exact (loop_cons_false hf _).trans (loop_cons_false (f := fun s a => f s (g a)) hf l).symm
    · rw [loop_cons_true hf, ih]
      exact (loop_cons_true (f := fun s a => f s (g a)) hf l).symm

end Loop

section Blocks
variable {κ α : Type}

theorem flatMap_eq_iff [DecidableEq κ] {l : List κ} (hl : l.Nodup) {f g : κ → List α} (key : α → κ)
    (hf : ∀ k ∈ l, ∀ x ∈ f k, key x = k) (hg : ∀ k ∈ l, ∀ x ∈ g k, key x = k) :
    l.flatMap f = l.flatMap g ↔ ∀ k ∈ l, f k = g k := by
  induction l with
  | nil => simp
  | cons k l ih =>
    obtain ⟨hk, hl⟩ := List.nodup_cons.mp hl
    have hrest : ∀ {h : κ → List α}, (∀ j ∈ k :: l, ∀ x ∈ h j, key x = j) →
        (l.flatMap h).filter (fun x => key x = k) = [] := by
      intro h hh
      rw [List.filter_eq_nil_iff]
      intro x hx
      obtain ⟨j, hj, hxj⟩ := List.mem_flatMap.mp hx
      rw [decide_eq_true_eq, hh j (List.mem_cons_of_mem _ hj) x hxj]
      rintro rfl
      exact hk hj
    have hblock : ∀ {h : κ → List α}, (∀ j ∈ k :: l, ∀ x ∈ h j, key x = j) →
        (h k).filter (fun x => key x = k) = h k := by
      intro h hh
      rw [List.filter_eq_self]
      intro x hx
      exact decide_eq_true (hh k List.mem_cons_self x hx)
    rw [List.flatMap_cons, List.flatMap_cons, List.forall_mem_cons]
    constructor
    · intro heq
      have hfirst := congrArg (List.filter fun x => decide (key x = k)) heq
      rw [List.filter_append, List.filter_append, hrest hf, hrest hg, hblock hf, hblock hg, List.append_nil,
        List.append_nil] at hfirst
      rw [hfirst, List.append_cancel_left_eq] at heq
      refine ⟨hfirst, (ih hl ?_ ?_).mp heq⟩
      · exact fun j hj => hf j (List.mem_cons_of_mem _ hj)
      · exact fun j hj => hg j (List.mem_cons_of_mem _ hj)
    · rintro ⟨hfirst, hall⟩
      rw [hfirst, (ih hl ?_ ?_).mpr hall]
      · exact fun j hj => hf j (List.mem_cons_of_mem _ hj)
      · exact fun j hj => hg j (List.mem_cons_of_mem _ hj)

theorem flatMap_eq_of_unique {l : List κ} (hl : l.Nodup) {f : κ → List α} {k : κ} (hk : k ∈ l)
    (h : ∀ j ∈ l, j ≠ k → f j = []) : l.flatMap f = f k := by
  induction l with
  | nil => cases hk
  | cons j l ih =>
    obtain ⟨hj, hl⟩ := List.nodup_cons.mp hl
    rw [List.flatMap_cons]
    rcases List.mem_cons.mp hk with rfl | hk
    · have hnil : l.flatMap f = [] := List.flatMap_eq_nil_iff.mpr fun i hi =>
        h i (List.mem_cons_of_mem _ hi) fun hik => hj (hik ▸ hi)
      rw [hnil, List.append_nil]
    · have hnil : f j = [] := h j List.mem_cons_self fun hjk => hj (hjk ▸ hk)
      rw [hnil, List.nil_append]
      exact ih hl hk fun i hi => h i (List.mem_cons_of_mem _ hi)

section Mirror
variable {l : List κ} {tag : κ → ℕ} (hl : l.Pairwise fun a b => tag a < tag b) {f : κ → List α} {key : α → ℕ}
  (hf : ∀ a ∈ l, ∀ x ∈ f a, key x = tag a)
include hl

theorem nodup_of_tag_lt : l.Nodup :=
  hl.imp fun {a b} (h : tag a < tag b) (heq : a = b) => Nat.lt_irrefl (tag b) (heq ▸ h)

theorem eq_of_tag_eq {a b : κ} (ha : a ∈ l) (hb : b ∈ l) (h : tag a = tag b) : a = b := by
  by_contra hne
  have hdiff : l.Pairwise fun a b => tag a ≠ tag b := hl.imp fun {a b} (hlt : tag a < tag b) => Nat.ne_of_lt hlt
  have hsymm : Std.Symm fun a b => tag a ≠ tag b := ⟨fun _ _ => Ne.symm⟩
  exact hdiff.forall ha hb hne h

include hf

theorem pairwise_flatMap_key {g : κ → List α} (hg : ∀ a, g a ⊆ f a) :
    (l.flatMap g).Pairwise fun x y => key x ≤ key y := by
  rw [List.pairwise_flatMap]
  constructor
  · intro a ha
    apply List.pairwise_of_forall_mem_list
    intro x hx y hy
    exact Nat.le_of_eq ((hf a ha x (hg a hx)).trans (hf a ha y (hg a hy)).symm)
  · refine hl.imp_of_mem ?_
    intro a b ha hb hlt x hx y hy
    rw [hf a ha x (hg a hx), hf b hb y (hg b hy)]
    exact Nat.le_of_lt hlt

/-- The blocks in order, each one backwards unless it is left out, are all of them backwards exactly when none is left
out and at most one is not empty. -/
theorem flatMap_reverse_eq_iff (keep : κ → Bool) :
    (l.flatMap fun a => if keep a then (f a).reverse else []) = (l.flatMap f).reverse ↔
      (∀ a ∈ l, f a ≠ [] → keep a = true) ∧ ∀ a ∈ l, ∀ b ∈ l, f a ≠ [] → f b ≠ [] → a = b := by
  have hnodup := nodup_of_tag_lt hl
  constructor
  · intro heq
    -- the keys go up on the one side and down on the other
    have hup : (l.flatMap f).reverse.Pairwise fun x y => key x ≤ key y := by
      rw [← heq]
      apply pairwise_flatMap_key hl hf
      intro a x hx
      split_ifs at hx
      · exact List.mem_reverse.mp hx
      · cases hx
    have hdown : (l.flatMap f).reverse.Pairwise fun x y => key y ≤ key x :=
      List.pairwise_reverse.mpr (pairwise_flatMap_key hl hf fun _ _ hx => hx)
    have hsame : (l.flatMap f).reverse.Pairwise fun x y => key x = key y :=
      hup.imp₂ (fun _ _ h h' => Nat.le_antisymm h h') hdown
    have hmem : ∀ a ∈ l, ∀ x ∈ f a, x ∈ (l.flatMap f).reverse := fun a ha x hx =>
      List.mem_reverse.mpr (List.mem_flatMap.mpr ⟨a, ha, hx⟩)
    constructor
    · intro a ha hne
      obtain ⟨x, hx⟩ := List.exists_mem_of_ne_nil _ hne
      have hxl := hmem a ha x hx
      rw [← heq] at hxl
      obtain ⟨b, hb, hxb⟩ := List.mem_flatMap.mp hxl
      split_ifs at hxb with hkeep
      · have hab : a = b := by
          apply eq_of_tag_eq hl ha hb
          rw [← hf a ha x hx, ← hf b hb x (List.mem_reverse.mp hxb)]
        exact hab ▸ hkeep
      · cases hxb
    · intro a ha b hb hna hnb
      obtain ⟨x, hx⟩ := List.exists_mem_of_ne_nil _ hna
      obtain ⟨y, hy⟩ := List.exists_mem_of_ne_nil _ hnb
      apply eq_of_tag_eq hl ha hb
      rw [← hf a ha x hx, ← hf b hb y hy]
      have hsymm : Std.Symm fun x y => key x = key y := ⟨fun _ _ => Eq.symm⟩
      exact List.Pairwise.forall_of_forall (R := fun x y => key x = key y) (fun _ _ => rfl) hsame (hmem a ha x hx)
        (hmem b hb y hy)
  · rintro ⟨hkeep, hone⟩
    by_cases hany : ∃ a ∈ l, f a ≠ []
    · obtain ⟨a, ha, hne⟩ := hany
      have hothers : ∀ b ∈ l, b ≠ a → f b = [] := by
        intro b hb hba
        by_contra hnb
        exact hba (hone b hb a ha hnb hne)
      rw [flatMap_eq_of_unique hnodup ha hothers, flatMap_eq_of_unique hnodup ha, if_pos (hkeep a ha hne)]
      intro b hb hba
      rw [hothers b hb hba, List.reverse_nil, ite_self]
    · have hnone : ∀ a ∈ l, f a = [] := by
        intro a ha
        by_contra hne
        exact hany ⟨a, ha, hne⟩
      rw [List.flatMap_eq_nil_iff.mpr hnone, List.reverse_nil, List.flatMap_eq_nil_iff]
      intro a ha
      rw [hnone a ha, List.reverse_nil, ite_self]

end Mirror

end Blocks

end IotConnect.Traverse
