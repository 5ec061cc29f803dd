import StyleInline.Document.Printer
import StyleInline.Proofs.Document.WellFormed
import StyleInline.Proofs.Text.Trim
import StyleInline.Proofs.Text.Unambiguous

/-!
# Canonical trees

The written form of a tree does not show everything: where one of two adjacent texts ends,
what is below a comment, or whether a `>` belongs to the name of an element or ends its tag.
Canonical trees are those without such hidden parts.  Values of attributes and texts are
arbitrary in them, because these are escaped.

The tree of a document is told by what its nodes are and by their lists of children, without
regard to how it is printed.

What is written of a node of a canonical tree, its names, attributes and texts, can be told from
whatever is written behind it: escaped texts can be read back, and so can start tags.

## Main definitions

* `Document.Forms` — the forest that nodes of a document form.
* `Document.SameTree` — two documents with one tree.
* `NodeKind.IsCanonical`, `Content.IsCanonical` — nodes whose names and texts hold none of the
  marks around them.
* `NodeKind.Holds` — what can be seen below a node.
* `Forest.IsCanonical`, `Document.IsCanonical` — canonical trees.
-/

namespace StyleInline

/-! ## The tree of a document -/

namespace Document

/-- The nodes `handles` of a document, with all that is below them, form a forest: one tree
stands behind the other, with what the node is at its root and what its children form below. -/
inductive Forms (d : Document) : (handles : List Handle) → Forest Content → Prop
  | nil : Forms d [] .nil
  | cons {n : Handle} {later : List Handle} {content : Content} {below behind : Forest Content} :
      d.content? n = some content → Forms d (d.children n) below → Forms d later behind →
      Forms d (n :: later) (.cons content below behind)

/-- Two documents have the same tree: the same nodes in the same places, whatever their
handles are. -/
def SameTree (d d' : Document) : Prop := ∃ tree, d.Forms [root] tree ∧ d'.Forms [root] tree

end Document

/-! ## Canonical trees -/

/-- A name that can be told from the marks of tags.  It stands alone or on one side of the
colon. -/
structure TagName.IsPlainPart (part : Text) : Prop where
  ne_nil : part ≠ []
  head?_ne : part.head? ≠ some '!'
  isBlank_eq_false : ∀ c ∈ part, Text.isBlank c = false
  notMem : ∀ c ∈ ['<', '>', '/', ':', '=', '"'], c ∉ part

/-- A tag name whose parts can be told from the marks of tags. -/
structure TagName.IsCanonical (tag : TagName) : Prop where
  localName : IsPlainPart tag.localName
  qualifier : ∀ qualifier ∈ tag.qualifier, IsPlainPart qualifier

/-- A name of an attribute that can be told from the marks of tags. -/
structure IsPlainAttribute (name : Text) : Prop where
  ne_nil : name ≠ []
  isBlank_eq_false : ∀ c ∈ name, Text.isBlank c = false
  notMem : ∀ c ∈ ['=', '"', '<', '>'], c ∉ name

namespace NodeKind

/-- A kind of node that may stand below the document, with a written form that shows where it
ends. -/
def IsCanonical : NodeKind → Prop
  | .document => False
  | .doctype name => '>' ∉ name
  | .element tag => tag.IsCanonical
  | .text run => run ≠ []
  | .comment note => ¬ "-->".toList <:+: note

/-- The trees that a node may have below it, so that they are written and can be told from
its end tag. -/
def Holds (below : Forest Content) : NodeKind → Prop
  | .element tag =>
    (tag.isVoid = true → below = .nil) ∧
      (tag.isRaw = true → below = .nil ∨
        ∃ run, ¬ "</".toList <:+: run ∧ below = .single (.ofKind (.text run)) .nil)
  | _ => below = .nil

/-- Whether a node is a run of text. -/
def isText : NodeKind → Bool
  | .text _ => true
  | _ => false

end NodeKind

/-- A node with a canonical kind and plain names of attributes. -/
structure Content.IsCanonical (content : Content) : Prop where
  kind : content.kind.IsCanonical
  attributes : ∀ entry ∈ content.attributes.entries, IsPlainAttribute entry.1

/-- A forest whose nodes are canonical, with nothing below them that cannot be seen, and
without a text next to a text. -/
def Forest.IsCanonical : Forest Content → Prop
  | .nil => True
  | .cons content below behind =>
    content.IsCanonical ∧ content.kind.Holds below ∧
      (content.kind.isText = true → ∀ next ∈ behind.roots.head?, next.kind.isText = false) ∧
      below.IsCanonical ∧ behind.IsCanonical

/-- A document whose nodes below the root form a canonical forest. -/
def Document.IsCanonical (d : Document) : Prop :=
  ∃ forest, d.Forms (d.children root) forest ∧ forest.IsCanonical

/-! ## Escaped texts -/

namespace Escape

theorem shared?_eq (c : Char) : shared? c =
    if c = '&' then some "&amp;".toList else if c = '\u00a0' then some "&nbsp;".toList
    else none := by
  rw [shared?.eq_def]
  split
  · rfl
  · rfl
  · next hamp hnbsp => rw [if_neg hamp, if_neg hnbsp]

theorem textChar_eq (c : Char) : textChar c =
    if c = '&' then "&amp;".toList else if c = '\u00a0' then "&nbsp;".toList
    else if c = '<' then "&lt;".toList else if c = '>' then "&gt;".toList else [c] := by
  rw [textChar, shared?_eq]
  split_ifs <;> rfl

theorem valueChar_eq (c : Char) : valueChar c =
    if c = '&' then "&amp;".toList else if c = '\u00a0' then "&nbsp;".toList
    else if c = '"' then "&quot;".toList else [c] := by
  rw [valueChar, shared?_eq]
  split_ifs <;> rfl

/-- Only escaped characters begin with `&`, and no two of them are written alike. -/
theorem isPrefixCode_textChar : Text.IsPrefixCode textChar where
  ne_nil c := by
    rw [textChar_eq]
    split_ifs <;> simp
  eq_of_append_eq := by
    intro c d x y h
    rw [textChar_eq, textChar_eq] at h
    split_ifs at h <;> grind

/-- Only escaped characters begin with `&`, and no two of them are written alike. -/
theorem isPrefixCode_valueChar : Text.IsPrefixCode valueChar where
  ne_nil c := by
    rw [valueChar_eq]
    split_ifs <;> simp
  eq_of_append_eq := by
    intro c d x y h
    rw [valueChar_eq, valueChar_eq] at h
    split_ifs at h <;> grind

/-- Different texts are written differently. -/
theorem text_injective : Function.Injective text := isPrefixCode_textChar.flatMap_injective

/-- Different values are written differently. -/
theorem value_injective : Function.Injective value := isPrefixCode_valueChar.flatMap_injective

/-- No tag begins in an escaped text. -/
theorem lt_notMem_text (s : Text) : '<' ∉ text s := by
  rw [text, List.mem_flatMap]
  rintro ⟨c, -, hc⟩
  rw [textChar_eq] at hc
  split_ifs at hc <;> simp_all [eq_comm]

/-- An escaped value does not end itself. -/
theorem quote_notMem_value (s : Text) : '"' ∉ value s := by
  rw [value, List.mem_flatMap]
  rintro ⟨c, -, hc⟩
  rw [valueChar_eq] at hc
  split_ifs at hc <;> simp_all [eq_comm]

theorem text_ne_nil {s : Text} (h : s ≠ []) : text s ≠ [] :=
  fun hnil => h (text_injective (hnil.trans text_nil.symm))

end Escape

/-! ## Tags -/

variable {tag tag' : TagName} {attributes attributes' : OrderedMap Text Text}
  {entries entries' : List (Text × Text)} {y y' : Text}

namespace TagName

theorem IsPlainPart.notMem_of_isBlank {part : Text} {c : Char} (h : IsPlainPart part)
    (hc : Text.isBlank c = true) : c ∉ part := by
  intro hmem
  rw [h.isBlank_eq_false c hmem] at hc
  cases hc

/-- A tag name holds no blank and no mark of a tag but the colon. -/
theorem IsCanonical.notMem_render {c : Char} (h : tag.IsCanonical) (hcolon : c ≠ ':')
    (hpart : ∀ part, IsPlainPart part → c ∉ part) : c ∉ tag.render := by
  have hlocal : c ∉ tag.localName := hpart _ h.localName
  rw [render]
  cases hqualifier : tag.qualifier with
  | none => exact hlocal
  | some qualifier =>
    have hbefore : c ∉ qualifier := hpart _ (h.qualifier qualifier hqualifier)
    simp [hbefore, hcolon, hlocal]

/-- A tag name begins with a part, which is not empty. -/
theorem IsCanonical.exists_render_eq (h : tag.IsCanonical) :
    ∃ c rest, tag.render = c :: rest ∧ c ≠ '/' ∧ c ≠ '!' := by
  have hpart {part : Text} (hpart : IsPlainPart part) :
      ∃ c rest, part = c :: rest ∧ c ≠ '/' ∧ c ≠ '!' := by
    obtain ⟨c, rest, rfl⟩ := List.exists_cons_of_ne_nil hpart.ne_nil
    refine ⟨c, rest, rfl, ?_, ?_⟩
    · rintro rfl
      exact hpart.notMem '/' (by simp) List.mem_cons_self
    · rintro rfl
      exact hpart.head?_ne rfl
  rw [render]
  cases hqualifier : tag.qualifier with
  | none => exact hpart h.localName
  | some qualifier =>
    obtain ⟨c, rest, rfl, hc⟩ := hpart (h.qualifier qualifier hqualifier)
    exact ⟨c, rest ++ ':' :: tag.localName, rfl, hc⟩

/-- Tag names that are written alike are the same: only in a qualified one stands a colon,
behind the qualifier. -/
theorem IsCanonical.eq_of_render_eq (h : tag.IsCanonical) (h' : tag'.IsCanonical)
    (heq : tag.render = tag'.render) : tag = tag' := by
  have hcolon {part : Text} (hpart : IsPlainPart part) : ':' ∉ part :=
    hpart.notMem ':' (by simp)
  obtain ⟨qualifier, localName⟩ := tag
  obtain ⟨qualifier', localName'⟩ := tag'
  cases qualifier with
  | none =>
    cases qualifier' with
    | none => exact congrArg (TagName.mk none) heq
    | some qualifier' =>
      have hmem : ':' ∈ localName := by
        change localName = qualifier' ++ ':' :: localName' at heq
        simp [heq]
      exact absurd hmem (hcolon h.localName)
  | some qualifier =>
    cases qualifier' with
    | none =>
      have hmem : ':' ∈ localName' := by
        change qualifier ++ ':' :: localName = localName' at heq
        simp [← heq]
      exact absurd hmem (hcolon h'.localName)
    | some qualifier' =>
      have hbefore := hcolon (h.qualifier qualifier rfl)
      have hbefore' := hcolon (h'.qualifier qualifier' rfl)
      obtain ⟨rfl, rfl⟩ := Text.append_cons_inj hbefore hbefore' heq
      rfl

/-- Whether a character ends a tag name. -/
def endsName (c : Char) : Bool := c == ' ' || c == '>'

theorem IsCanonical.endsName_eq_false (h : tag.IsCanonical) :
    ∀ c ∈ tag.render, endsName c = false := by
  intro c hmem
  have hspace : c ≠ ' ' := by
    rintro rfl
    exact h.notMem_render (by decide) (fun _ hpart => hpart.notMem_of_isBlank rfl) hmem
  have hclose : c ≠ '>' := by
    rintro rfl
    exact h.notMem_render (by decide) (fun _ hpart => hpart.notMem '>' (by simp)) hmem
  simp [endsName, hspace, hclose]

/-- A tag name can be told from what ends it. -/
theorem IsCanonical.render_append_inj (h : tag.IsCanonical) (h' : tag'.IsCanonical)
    (hy : ∀ c ∈ y.head?, endsName c = true) (hy' : ∀ c ∈ y'.head?, endsName c = true)
    (heq : tag.render ++ y = tag'.render ++ y') : tag = tag' ∧ y = y' := by
  obtain ⟨hname, hrest⟩ :=
    Text.append_inj_of_stop h.endsName_eq_false h'.endsName_eq_false hy hy' heq
  exact ⟨h.eq_of_render_eq h' hname, hrest⟩

end TagName

theorem renderAttribute_append (entry : Text × Text) (y : Text) :
    renderAttribute entry ++ y =
      ' ' :: (entry.1 ++ '=' :: '"' :: (Escape.value entry.2 ++ '"' :: y)) := by
  simp [renderAttribute]

/-- The attributes of a tag end where no other follows. -/
theorem flatMap_renderAttribute_append_inj (h : ∀ entry ∈ entries, IsPlainAttribute entry.1)
    (h' : ∀ entry ∈ entries', IsPlainAttribute entry.1)
    (heq : entries.flatMap renderAttribute ++ '>' :: y
      = entries'.flatMap renderAttribute ++ '>' :: y') : entries = entries' ∧ y = y' := by
  induction entries generalizing entries' with
  | nil =>
    cases entries' with
    | nil => exact ⟨rfl, (List.cons.inj heq).2⟩
    | cons entry' later' =>
      rw [List.flatMap_cons, List.append_assoc, renderAttribute_append] at heq
      cases heq
  | cons entry later ih =>
    cases entries' with
    | nil =>
      rw [List.flatMap_cons, List.append_assoc, renderAttribute_append] at heq
      cases heq
    | cons entry' later' =>
      obtain ⟨hentry, hlater⟩ := List.forall_mem_cons.1 h
      obtain ⟨hentry', hlater'⟩ := List.forall_mem_cons.1 h'
      rw [List.flatMap_cons, List.flatMap_cons, List.append_assoc, List.append_assoc,
        renderAttribute_append, renderAttribute_append] at heq
      -- the name ends at `=`, the value at the quotation mark
      obtain ⟨hname, hquoted⟩ := Text.append_cons_inj (hentry.notMem '=' (by simp))
        (hentry'.notMem '=' (by simp)) (List.cons.inj heq).2
      obtain ⟨hvalue, hrest⟩ := Text.append_cons_inj (Escape.quote_notMem_value _)
        (Escape.quote_notMem_value _) (List.cons.inj hquoted).2
      obtain ⟨rfl, rfl⟩ := ih hlater hlater' hrest
      have hsame : entry = entry' := Prod.ext hname (Escape.value_injective hvalue)
      exact ⟨by rw [hsame], rfl⟩

theorem renderStartTag_append (tag : TagName) (attributes : OrderedMap Text Text) (y : Text) :
    renderStartTag tag attributes ++ y =
      '<' :: (tag.render ++ (attributes.entries.flatMap renderAttribute ++ '>' :: y)) := by
  simp [renderStartTag]

/-- Attributes begin with a space and the tag ends with `>`. -/
theorem endsName_head?_attributes (entries : List (Text × Text)) (y : Text) :
    ∀ c ∈ (entries.flatMap renderAttribute ++ '>' :: y).head?, TagName.endsName c = true := by
  cases entries with
  | nil => simp [TagName.endsName]
  | cons entry later =>
    rw [List.flatMap_cons, List.append_assoc, renderAttribute_append]
    simp [TagName.endsName]

/-- **A start tag can be read back**, whatever is written behind it. -/
theorem renderStartTag_append_inj
    (h : Content.IsCanonical ⟨.element tag, attributes⟩)
    (h' : Content.IsCanonical ⟨.element tag', attributes'⟩)
    (heq : renderStartTag tag attributes ++ y = renderStartTag tag' attributes' ++ y') :
    tag = tag' ∧ attributes = attributes' ∧ y = y' := by
  rw [renderStartTag_append, renderStartTag_append] at heq
  obtain ⟨htag, hattributes⟩ := h.kind.render_append_inj h'.kind (endsName_head?_attributes _ _)
    (endsName_head?_attributes _ _) (List.cons.inj heq).2
  obtain ⟨hentries, hrest⟩ :=
    flatMap_renderAttribute_append_inj h.attributes h'.attributes hattributes
  obtain ⟨entries⟩ := attributes
  obtain ⟨entries'⟩ := attributes'
  cases hentries
  exact ⟨htag, rfl, hrest⟩

end StyleInline
