import StyleInline.Proofs.Forest.Unfold

/-!
# Forests made of forests

Three things that are done to a forest as a whole: some of its labels are left out, with all that
is below them; another forest is put behind its last tree; its labels are replaced by numbers in
document order.  What remains of a forest that unfolds a function unfolds that function without
the labels left out, and forests that unfold a function unfold it one behind the other.

## Main definitions

* `Forest.keep`, `Forest.append`, `Forest.number` — labels left out, one forest behind another,
  the places of the labels in document order.

## Main results

* `Forest.preorder_keep`, `Forest.preorder_number` — what becomes of the document order.
* `Forest.Unfolds.keep`, `Forest.Unfolds.append` — what the results unfold.
* `Forest.Unfolds.unique` — a function unfolds in one way.
-/

namespace StyleInline.Forest

variable {α β : Type} {next next' : α → List α} {roots roots' : List α}
  {forest other : Forest α} {p : α → Bool} {f g : α → β}

@[simp] theorem size_single (a : α) (forest : Forest α) :
    (single a forest).size = forest.size + 1 := rfl

@[simp] theorem size_map (f : α → β) (forest : Forest α) : (forest.map f).size = forest.size := by
  rw [← length_preorder, preorder_map, List.length_map, length_preorder]

/-- Where replacements agree on the labels, the replaced forests are the same. -/
theorem map_congr (h : ∀ x ∈ forest.preorder, f x = g x) : forest.map f = forest.map g := by
  induction forest with
  | nil => rfl
  | cons a c s ihc ihs =>
    simp only [preorder_cons, List.forall_mem_cons, List.forall_mem_append] at h
    rw [map, map, h.1, ihc h.2.1, ihs h.2.2]

/-- A forest unfolds also a function that lists the same below its labels. -/
theorem Unfolds.congr (h : Unfolds next roots forest)
    (hnext : ∀ x ∈ forest.preorder, next' x = next x) : Unfolds next' roots forest where
  roots_eq := h.roots_eq
  below_eq hp := by rw [h.below_eq hp, hnext _ hp.mem]

/-- A function unfolds from given roots in one way. -/
theorem Unfolds.unique (h : Unfolds next roots forest) (h' : Unfolds next roots other) :
    forest = other := by
  induction forest generalizing roots other with
  | nil =>
    rw [unfolds_nil_iff.1 h] at h'
    cases other with
    | nil => rfl
    | cons b c s => cases h'.roots_eq
  | cons a c s ihc ihs =>
    have hroots := h'.roots_eq.trans h.roots_eq.symm
    cases other with
    | nil => cases hroots
    | cons b c' s' =>
      obtain ⟨rfl, hsiblings⟩ := List.cons.inj hroots
      have hs' : Unfolds next s.roots s' := hsiblings ▸ h'.siblings
      rw [ihc h.children h'.children, ihs h.siblings hs']

/-! ## Labels left out -/

/-- The forest without the labels that do not satisfy `p`, and without what is below them. -/
def keep (p : α → Bool) : Forest α → Forest α
  | nil => nil
  | cons a children siblings =>
    if p a then cons a (keep p children) (keep p siblings) else keep p siblings

theorem roots_keep (p : α → Bool) (forest : Forest α) :
    (forest.keep p).roots = forest.roots.filter p := by
  induction forest with
  | nil => rfl
  | cons a c s _ ihs =>
    rw [keep, roots_cons, List.filter_cons, ← ihs]
    split <;> rfl

/-- What is left unfolds the function without the labels left out. -/
theorem Unfolds.keep (p : α → Bool) (h : Unfolds next roots forest) :
    Unfolds (fun a => (next a).filter p) (roots.filter p) (forest.keep p) := by
  induction forest generalizing roots with
  | nil => rw [unfolds_nil_iff.1 h]; exact unfolds_nil_iff.2 rfl
  | cons a c s ihc ihs =>
    have hsiblings := ihs h.siblings
    rw [← h.roots_eq, roots_cons, Forest.keep, List.filter_cons]
    split
    · exact unfolds_cons_iff.2 ⟨by rw [roots_keep], ihc h.children, by rwa [roots_keep]⟩
    · exact hsiblings

/-- If nothing is below the labels left out, the others are left in document order. -/
theorem preorder_keep (h : ∀ {a below behind}, forest.Place a below behind → p a = false →
    below = nil) : (forest.keep p).preorder = forest.preorder.filter p := by
  induction forest with
  | nil => rfl
  | cons a c s ihc ihs =>
    have hc := ihc fun hp => h (.inr (.inl hp))
    have hs := ihs fun hp => h (.inr (.inr hp))
    rw [keep, preorder_cons, List.filter_cons, List.filter_append, ← hc, ← hs]
    split
    · rfl
    · next ha =>
      rw [h (place_cons_self a c s) (Bool.eq_false_iff.2 ha)]
      rfl

/-! ## One forest behind another -/

/-- The trees of one forest, and those of another behind them. -/
def append : Forest α → Forest α → Forest α
  | nil, other => other
  | cons a children siblings, other => cons a children (siblings.append other)

@[simp] theorem nil_append (forest : Forest α) : nil.append forest = forest := rfl

@[simp] theorem roots_append (forest other : Forest α) :
    (forest.append other).roots = forest.roots ++ other.roots := by
  induction forest with
  | nil => rfl
  | cons a c s _ ihs => rw [append, roots_cons, ihs, roots_cons, List.cons_append]

@[simp] theorem size_append (forest other : Forest α) :
    (forest.append other).size = forest.size + other.size := by
  induction forest with
  | nil => rw [nil_append, size, Nat.zero_add]
  | cons a c s _ ihs => rw [append, size, ihs, size]; omega

theorem map_append (f : α → β) (forest other : Forest α) :
    (forest.append other).map f = (forest.map f).append (other.map f) := by
  induction forest with
  | nil => rfl
  | cons a c s _ ihs => rw [append, map, ihs, map, append]

/-- Forests that unfold a function unfold it one behind the other. -/
theorem Unfolds.append (h : Unfolds next roots forest) (h' : Unfolds next roots' other) :
    Unfolds next (roots ++ roots') (forest.append other) := by
  induction forest generalizing roots with
  | nil =>
    rw [unfolds_nil_iff.1 h]
    exact h'
  | cons a c s _ ihs =>
    have hsiblings := ihs h.siblings
    rw [← h.roots_eq, Forest.append, unfolds_cons_iff, hsiblings.roots_eq]
    exact ⟨rfl, h.children, hsiblings⟩

/-! ## Numbers -/

/-- The forest with its labels replaced by numbers in document order, from `start` on. -/
def number : (start : Nat) → Forest α → Forest Nat
  | _, nil => nil
  | start, cons _ children siblings =>
    cons start (number (start + 1) children) (number (start + 1 + children.size) siblings)

/-- The numbers in document order. -/
theorem preorder_number (start : Nat) (forest : Forest α) :
    (forest.number start).preorder = List.range' start forest.size := by
  induction forest generalizing start with
  | nil => rfl
  | cons a c s ihc ihs =>
    have hsize : c.size + s.size + 1 = (c.size + s.size).succ := rfl
    rw [number, preorder_cons, ihc, ihs, size, hsize, List.range'_succ, List.range'_append_1]

/-- The numbers of one forest go on behind those of another. -/
theorem number_append (start : Nat) (forest other : Forest α) :
    (forest.append other).number start =
      (forest.number start).append (other.number (start + forest.size)) := by
  induction forest generalizing start with
  | nil => rfl
  | cons a c s _ ihs =>
    rw [append, number, ihs, number, append, size]
    congr 3
    omega

/-- A number stands in the forest if it is one of those given out. -/
theorem mem_preorder_number_iff {start n : Nat} :
    n ∈ (forest.number start).preorder ↔ start ≤ n ∧ n < start + forest.size := by
  rw [preorder_number, List.mem_range'_1]

end StyleInline.Forest
