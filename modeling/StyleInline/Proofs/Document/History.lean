import StyleInline.Proofs.Document.Append

/-!
# Histories of documents

A document comes from the empty one by operations on nodes that exist.  One operation keeps a
document well-formed, whether it succeeds or fails, and so does a history of them.  What
appending does to such a document can then be told from parents alone.

## Main definitions

* `Document.Operation`, `Document.after` — one operation, and the document it leaves.
* `Document.Legal`, `Document.run` — a history on nodes that exist, and the document after it.
* `Document.IsForestAfter` — what holds of the document after a history.

## Main results

* `Document.WellFormed.after_operation`, `Document.wellFormed_run` — one operation, and a history.
* `Document.isForestAfter_run` — it holds after every legal history.
-/

namespace StyleInline.Document

variable {d d' d₁ : Document} {a c n p : Handle}

/-! ## Operations -/

/-- An operation on a document. -/
inductive Operation where
  /-- An element without attributes is created. -/
  | createElement (tag : TagName)
  /-- A run of text is created. -/
  | createText (text : Text)
  /-- A comment is created. -/
  | createComment (text : Text)
  /-- A document type is created. -/
  | createDoctype (name : Text)
  /-- A node is made the last child of another. -/
  | append (parent child : Handle)
  /-- An element with attributes is created and made the last child of a node. -/
  | appendElement (parent : Handle) (tag : TagName) (attributes : List (Text × Text))
  /-- An attribute of a node is written. -/
  | setAttribute (n : Handle) (name value : Text)
deriving Repr, DecidableEq

namespace Operation

/-- The nodes that an operation names. -/
def nodes : Operation → List Handle
  | append parent child => [parent, child]
  | appendElement parent .. => [parent]
  | setAttribute n .. => [n]
  | createElement _ | createText _ | createComment _ | createDoctype _ => []

/-- Whether an operation creates a node. -/
def creates : Operation → Bool
  | createElement _ | createText _ | createComment _ | createDoctype _ | appendElement .. => true
  | append .. | setAttribute .. => false

end Operation

/-- The document after an operation, whether it succeeds or is refused. -/
def after (d : Document) : Operation → Document
  | .createElement tag => (d.create (.element tag)).2
  | .createText text => (d.create (.text text)).2
  | .createComment text => (d.create (.comment text)).2
  | .createDoctype name => (d.create (.doctype name)).2
  | .append parent child => (d.append parent child).document
  | .appendElement parent tag attributes => (d.appendElement parent tag attributes).document
  | .setAttribute n name value => (d.setAttribute n name value).document

/-- The document after a history of operations. -/
def run (operations : List Operation) : Document := operations.foldl after empty

/-- The operations name only nodes that exist by then. -/
def Legal (d : Document) : List Operation → Prop
  | [] => True
  | operation :: later =>
    (∀ n ∈ operation.nodes, n < d.size) ∧ Legal (d.after operation) later

instance Legal.instDecidable : (d : Document) → (operations : List Operation) →
    Decidable (Legal d operations)
  | _, [] => .isTrue trivial
  | d, operation :: later =>
    haveI := instDecidable (d.after operation) later
    inferInstanceAs (Decidable (_ ∧ _))

/-! ## One operation -/

/-- A node that is created under another is never refused: nothing is below it yet. -/
theorem WellFormed.exists_append_created (h : d.WellFormed) {content : Content}
    (hcontent : content.IsSound) (hd : Created d content d₁) (hp : p < d.size) :
    ∃ d', d₁.append p d.size = ⟨.ok (), d'⟩ ∧ Moved d₁ p d.size d' ∧ d'.WellFormed := by
  have h₁ : d₁.WellFormed := h.created hd hcontent
  have hne : d.size ≠ p := (Nat.ne_of_lt hp).symm
  have hanc : ¬ d₁.Ancestor d.size p := by
    rw [ancestor_congr hd.parent?_eq]
    exact fun hanc => Nat.lt_irrefl _ (h.ancestor_lt hanc)
  have hmoved : Moved d₁ p d.size ((d₁.detach d.size).attach p d.size) := by
    refine h₁.moved ?_ ?_ <;> rw [hd.size_eq]
    · exact Nat.lt_succ_of_lt hp
    · exact Nat.lt_succ_self _
  exact ⟨_, h₁.append_of_not_ancestor hne hanc, hmoved, hmoved.wellFormed h₁ hne hanc⟩

/-- Creating an element under a node that exists succeeds. -/
theorem WellFormed.exists_appendElement (h : d.WellFormed) (hp : p < d.size) (tag : TagName)
    (attributes : List (Text × Text)) :
    ∃ d', d.appendElement p tag attributes = ⟨.ok d.size, d'⟩ ∧ d'.WellFormed ∧
      d'.size = d.size + 1 := by
  obtain ⟨d₁, hset, hcreated⟩ :=
    (created_create d (.element tag)).exists_setAttributes attributes
  have hsound : Content.IsSound ⟨.element tag, .ofList attributes⟩ :=
    ⟨OrderedMap.distinct_ofList attributes, fun hnot => nomatch hnot⟩
  obtain ⟨d', happend, hmoved, hd'⟩ := h.exists_append_created hsound hcreated hp
  refine ⟨d', ?_, hd', by rw [hmoved.size_eq, hcreated.size_eq]⟩
  simp only [appendElement, fst_create, hset, happend, Outcome.andThen_ok]

/-- Appending leaves a document well-formed, whether it succeeds or is refused. -/
theorem WellFormed.document_append (h : d.WellFormed) (hp : p < d.size) (hc : c < d.size) :
    (d.append p c).document.WellFormed ∧ (d.append p c).document.size = d.size := by
  by_cases hcp : c = p
  · rw [append, if_pos hcp]
    exact ⟨h, rfl⟩
  · by_cases hanc : d.Ancestor c p
    · have hrefused := h.append_eq_error_iff.2 (.inr ⟨hcp, hanc, rfl⟩)
      rw [document_append_of_error hrefused]
      exact ⟨h, rfl⟩
    · rw [h.append_of_not_ancestor hcp hanc]
      have hmoved := h.moved hp hc
      exact ⟨hmoved.wellFormed h hcp hanc, hmoved.size_eq⟩

/-- An operation leaves a document well-formed and creates a node or none. -/
theorem WellFormed.after_operation {operation : Operation} (h : d.WellFormed)
    (hnodes : ∀ n ∈ operation.nodes, n < d.size) :
    (d.after operation).WellFormed ∧
      (d.after operation).size = d.size + if operation.creates then 1 else 0 := by
  have hcreate (kind : NodeKind) :
      (d.create kind).2.WellFormed ∧ (d.create kind).2.size = d.size + 1 :=
    ⟨h.created (created_create d kind) (Content.isSound_ofKind kind), size_create d kind⟩
  cases operation with
  | createElement | createText | createComment | createDoctype => exact hcreate _
  | append p c =>
    exact h.document_append (hnodes p (by simp [Operation.nodes]))
      (hnodes c (by simp [Operation.nodes]))
  | appendElement p tag attributes =>
    obtain ⟨d', happend, hd'⟩ :=
      h.exists_appendElement (hnodes p List.mem_cons_self) tag attributes
    rw [after, happend]
    exact hd'
  | setAttribute n name value =>
    exact ⟨h.writeAttribute n name value, size_writeAttribute d n name value⟩

/-! ## Histories -/

theorem parent?_empty (n : Handle) : empty.parent? n = none := by
  cases n <;> rfl

theorem children_empty (n : Handle) : empty.children n = [] := by
  cases n <;> rfl

/-- The empty document is well-formed. -/
theorem wellFormed_empty : WellFormed empty where
  content?_root := rfl
  mem_children_iff := by
    intro p c
    simp [children_empty, Parent, parent?_empty]
  nodup_children p := by simp [children_empty]
  acyclic n hn := by
    obtain ⟨p, hp, -⟩ := ancestor_iff.1 hn
    simp [Parent, parent?_empty] at hp
  isSound {n content} hcontent := by
    cases n with
    | zero =>
      cases hcontent
      exact Content.isSound_ofKind .document
    | succ n => cases hcontent

/-- A history leaves a document well-formed, and it counts what has been created. -/
theorem WellFormed.foldl_after {operations : List Operation} (h : d.WellFormed)
    (hlegal : Legal d operations) :
    (operations.foldl Document.after d).WellFormed ∧
      (operations.foldl Document.after d).size = d.size + operations.countP Operation.creates := by
  induction operations generalizing d with
  | nil => exact ⟨h, rfl⟩
  | cons operation later ih =>
    obtain ⟨hafter, hsize⟩ := h.after_operation hlegal.1
    obtain ⟨hrun, hcount⟩ := ih hafter hlegal.2
    refine ⟨hrun, ?_⟩
    rw [List.foldl_cons, hcount, hsize, List.countP_cons]
    omega

/-- Every document that comes from the empty one is well-formed. -/
theorem wellFormed_run {operations : List Operation} (h : Legal empty operations) :
    (run operations).WellFormed :=
  (wellFormed_empty.foldl_after h).1

/-- What holds of a document `d` after a history: it is a forest, attributes belong to elements
and are written once, and appending is refused exactly where it would put a node below itself. -/
structure IsForestAfter (operations : List Operation) (d : Document) : Prop where
  acyclic : ∀ n, ¬ d.Ancestor n n
  lt_size : ∀ p c, d.parent? c = some p → p < d.size ∧ c < d.size
  count_children : ∀ p c, (d.children p).count c = if d.parent? c = some p then 1 else 0
  distinct_attributes : ∀ n, (d.attributes n).Distinct
  attributes_eq_empty : ∀ n, d.isElement n = false → d.attributes n = .empty
  size_eq : d.size = 1 + operations.countP Operation.creates
  append_eq_error_iff : ∀ p c, p < d.size → c < d.size → ∀ e,
    (d.append p c).answer = .error e ↔
      (c = p ∧ e = .appendToItself) ∨ (c ≠ p ∧ d.Ancestor c p ∧ e = .appendToDescendant)
  document_append_of_error : ∀ p c e, (d.append p c).answer = .error e →
    (d.append p c).document = d
  moved_of_append : ∀ p c, p < d.size → c < d.size → (d.append p c).answer = .ok () →
    Moved d p c (d.append p c).document
  appendElement_eq_ok : ∀ p < d.size, ∀ tag attributes,
    (d.appendElement p tag attributes).answer = .ok d.size

/-- **A document stays a forest**, whatever the history: nodes may be moved again and again, the
root among them. -/
theorem isForestAfter_run {operations : List Operation} (hlegal : Legal empty operations) :
    IsForestAfter operations (run operations) where
  acyclic := (wellFormed_run hlegal).acyclic
  lt_size p c hp := ⟨(wellFormed_run hlegal).parent_lt hp, Parent.child_lt hp⟩
  count_children := (wellFormed_run hlegal).count_children
  distinct_attributes := (wellFormed_run hlegal).distinct_attributes
  attributes_eq_empty n := (wellFormed_run hlegal).attributes_eq_empty
  size_eq := (wellFormed_empty.foldl_after hlegal).2
  append_eq_error_iff p c _ _ e := (wellFormed_run hlegal).append_eq_error_iff
  document_append_of_error p c e := Document.document_append_of_error
  moved_of_append p c hp hc happend := by
    have h := wellFormed_run hlegal
    have hnot (e : DocumentError) (herror : ((run operations).append p c).answer = .error e) :
        False := nomatch happend.symm.trans herror
    have hcp : c ≠ p := fun hcp => hnot _ (h.append_eq_error_iff.2 (.inl ⟨hcp, rfl⟩))
    have hanc : ¬ (run operations).Ancestor c p := fun hanc =>
      hnot _ (h.append_eq_error_iff.2 (.inr ⟨hcp, hanc, rfl⟩))
    rw [h.append_of_not_ancestor hcp hanc]
    exact h.moved hp hc
  appendElement_eq_ok p hp tag attributes := by
    obtain ⟨d', happend, -⟩ := (wellFormed_run hlegal).exists_appendElement hp tag attributes
    rw [happend]

/-- A history with moves: the second paragraph goes before the first one, a node is refused a
place below itself, a text is refused an attribute, and the root goes under another element. -/
def moves : List Operation :=
  [.appendElement root ⟨none, "body".toList⟩ [("id".toList, "a".toList), ("id".toList, "b".toList)],
    .appendElement 1 ⟨none, "p".toList⟩ [], .appendElement 1 ⟨some "x".toList, "p".toList⟩ [],
    .createText "note".toList, .append 2 4, .append 1 2, .append 4 1, .append 4 4,
    .setAttribute 4 "id".toList "c".toList, .setAttribute 1 "id".toList "c".toList,
    .createElement ⟨none, "div".toList⟩, .append 5 root, .append 0 5]

theorem isForestAfter_run_moves : Legal empty moves ∧ IsForestAfter moves (run moves) :=
  have hlegal : Legal empty moves := by decide +kernel
  ⟨hlegal, isForestAfter_run hlegal⟩

end StyleInline.Document
