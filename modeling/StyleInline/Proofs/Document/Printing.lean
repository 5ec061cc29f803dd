import StyleInline.Proofs.Document.Canonical
import StyleInline.Proofs.Document.History
import StyleInline.Proofs.Document.Subtree

/-!
# Printing loses nothing

The written form of a canonical forest can be read back.  Its first characters show what kind
of node comes first, or that none comes; what is written of that node shows where it ends,
since an element ends with its end tag and a text where a tag begins; and so on behind it.

Forests are written one behind the other and inside one another, so this is stated of a
written forest with more text behind it, which either is empty or begins with an end tag.

Printing walks down a document by itself.  In a well-formed document it finds the forest that
the nodes form, so canonical documents that are written alike have the same tree.

## Main definitions

* `Lead` — what the first characters of a written forest show.
* `Forest.CanBeRead` — what it means that a forest can be read back.

## Main results

* `Forest.IsCanonical.canBeRead` — canonical forests can be read back.
* `Document.WellFormed.forms_subtree` — walking down finds the forest that nodes form.
* `Document.sameTree_of_toHtml_eq` — canonical documents that are written alike have the same
  tree.
-/

namespace StyleInline

variable {content content' : Content} {kind : NodeKind} {tag : TagName}
  {attributes attributes' : OrderedMap Text Text}
  {f f' below below' behind behind' : Forest Content} {y y' rest rest' : Text}

/-! ## The first tree of a forest -/

/-- What is written of an element behind its start tag. -/
def renderContent (tag : TagName) (below : Forest Content) : Text :=
  if tag.isVoid then [] else below.render tag.isRaw ++ renderEndTag tag

namespace Forest

theorem render_doctype_append (name : Text) (attributes : OrderedMap Text Text)
    (below behind : Forest Content) (y : Text) :
    render false (.cons ⟨.doctype name, attributes⟩ below behind) ++ y
      = "<!DOCTYPE ".toList ++ (name ++ '>' :: (behind.render false ++ y)) := by
  have hcons : render false (.cons ⟨.doctype name, attributes⟩ below behind)
      = "<!DOCTYPE ".toList ++ name ++ '>' :: behind.render false := rfl
  rw [hcons, List.append_assoc, List.append_assoc, List.cons_append]

theorem render_element_append (tag : TagName) (attributes : OrderedMap Text Text)
    (below behind : Forest Content) (y : Text) :
    render false (.cons ⟨.element tag, attributes⟩ below behind) ++ y
      = renderStartTag tag attributes
        ++ (renderContent tag below ++ (behind.render false ++ y)) := by
  have hcons : render false (.cons ⟨.element tag, attributes⟩ below behind)
      = renderStartTag tag attributes ++ renderContent tag below ++ behind.render false := rfl
  rw [hcons, List.append_assoc, List.append_assoc]

theorem render_text_append (run : Text) (attributes : OrderedMap Text Text)
    (below behind : Forest Content) (y : Text) :
    render false (.cons ⟨.text run, attributes⟩ below behind) ++ y
      = Escape.text run ++ (behind.render false ++ y) := by
  have hcons : render false (.cons ⟨.text run, attributes⟩ below behind)
      = Escape.text run ++ behind.render false := rfl
  rw [hcons, List.append_assoc]

theorem render_comment_append (note : Text) (attributes : OrderedMap Text Text)
    (below behind : Forest Content) (y : Text) :
    render false (.cons ⟨.comment note, attributes⟩ below behind) ++ y
      = "<!--".toList ++ (note ++ (['-', '-'] ++ '>' :: (behind.render false ++ y))) := by
  have hcons : render false (.cons ⟨.comment note, attributes⟩ below behind)
      = "<!--".toList ++ note ++ (['-', '-'] ++ ['>']) ++ behind.render false := rfl
  rw [hcons]
  simp only [List.append_assoc, List.cons_append, List.nil_append]

end Forest

theorem renderEndTag_append (tag : TagName) (y : Text) :
    renderEndTag tag ++ y = ['<'] ++ '/' :: (tag.render ++ '>' :: y) := by
  simp [renderEndTag]

/-! ## The first characters -/

/-- What the first characters of a written forest show. -/
inductive Lead where
  /-- That no node comes: the text is empty or begins with an end tag. -/
  | stop
  /-- A document type. -/
  | doctype
  /-- A comment. -/
  | comment
  /-- An element. -/
  | element
  /-- A run of text. -/
  | text
deriving Repr, DecidableEq

namespace Lead

/-- What a text begins with. -/
def ofText : Text → Lead
  | [] => .stop
  | '<' :: '/' :: _ => .stop
  | '<' :: '!' :: '-' :: _ => .comment
  | '<' :: '!' :: _ => .doctype
  | '<' :: _ => .element
  | _ => .text

/-- What the written form of a node begins with.  A document is not written itself. -/
def ofKind : NodeKind → Lead
  | .document => .stop
  | .doctype _ => .doctype
  | .element _ => .element
  | .text _ => .text
  | .comment _ => .comment

/-- What the written form of a forest begins with. -/
def ofForest : Forest Content → Lead
  | .nil => .stop
  | .cons content _ _ => ofKind content.kind

theorem ofText_cons_of_ne {c : Char} (hc : c ≠ '<') : ofText (c :: y) = .text := by
  rw [ofText.eq_def]
  split <;> simp_all

theorem ofText_lt_cons {c : Char} (hslash : c ≠ '/') (hbang : c ≠ '!') :
    ofText ('<' :: c :: y) = .element := by
  rw [ofText.eq_def]
  split <;> simp_all

/-- A text that begins with no run of text begins with `<`, if it is not empty. -/
theorem head?_eq_of_ofText_ne (h : ofText y ≠ .text) : ∀ c ∈ y.head?, (c == '<') = true := by
  cases y with
  | nil => simp
  | cons c y =>
    by_contra hne
    exact h (ofText_cons_of_ne (by simpa using hne))

/-- A forest that does not begin with a text shows it. -/
theorem ofForest_ne_text (h : ∀ next ∈ f.roots.head?, next.kind.isText = false) :
    ofForest f ≠ .text := by
  cases f with
  | nil => simp [ofForest]
  | cons content below behind =>
    have hcontent := h content rfl
    rw [ofForest]
    cases hkind : content.kind with
    | text run =>
      rw [hkind] at hcontent
      cases hcontent
    | _ => simp [ofKind]

theorem ofKind_ne_stop (h : kind.IsCanonical) : ofKind kind ≠ .stop := by
  cases kind with
  | document => exact absurd h id
  | _ => simp [ofKind]

/-- The first characters of a written forest show what kind of node comes first. -/
theorem ofText_render (h : f.IsCanonical) (hrest : ofText rest = .stop) :
    ofText (f.render false ++ rest) = ofForest f := by
  cases f with
  | nil => exact hrest
  | cons content below behind =>
    obtain ⟨⟨hkind, -⟩, -⟩ := h
    obtain ⟨kind, attributes⟩ := content
    cases kind with
    | document => exact absurd hkind id
    | doctype name =>
      rw [Forest.render_doctype_append]
      rfl
    | comment note =>
      rw [Forest.render_comment_append]
      rfl
    | element tag =>
      obtain ⟨c, name, hname, hslash, hbang⟩ := TagName.IsCanonical.exists_render_eq hkind
      rw [Forest.render_element_append, renderStartTag_append, hname]
      exact ofText_lt_cons hslash hbang
    | text run =>
      obtain ⟨c, tail, hescaped⟩ := List.exists_cons_of_ne_nil (Escape.text_ne_nil hkind)
      have hc : c ≠ '<' := by
        rintro rfl
        exact Escape.lt_notMem_text run (hescaped ▸ List.mem_cons_self)
      rw [Forest.render_text_append, hescaped]
      exact ofText_cons_of_ne hc

/-- An end tag begins no node. -/
theorem ofText_renderEndTag_append (tag : TagName) (y : Text) :
    ofText (renderEndTag tag ++ y) = .stop := by
  rw [renderEndTag_append]
  rfl

end Lead

/-! ## One tree -/

/-- A forest of sound nodes: only elements have attributes. -/
def Forest.IsSound (f : Forest Content) : Prop := ∀ content ∈ f.preorder, content.IsSound

theorem Forest.isSound_cons_iff : IsSound (.cons content below behind) ↔
    content.IsSound ∧ below.IsSound ∧ behind.IsSound := by
  simp [IsSound, or_imp, forall_and]

/-- A forest can be read back when no other canonical forest is written in the same way.
Something that begins no node may stand behind either of them. -/
def Forest.CanBeRead (f : Forest Content) : Prop :=
  ∀ f' rest rest', f'.IsCanonical → f'.IsSound →
    Lead.ofText rest = .stop → Lead.ofText rest' = .stop →
    f.render false ++ rest = f'.render false ++ rest' → f = f' ∧ rest = rest'

/-- The forest below a raw element with a given text. -/
def rawContent (run : Text) : Forest Content :=
  if run = [] then .nil else .single (.ofKind (.text run)) .nil

/-- What is below a raw element is known by its text, in which no end tag begins. -/
theorem exists_rawContent (hraw : tag.isRaw = true)
    (hholds : (NodeKind.element tag).Holds below) (h : below.IsCanonical) :
    ∃ run, ¬ ['<'] ++ ['/'] <:+: run ∧ below.render true = run ∧ below = rawContent run := by
  rcases hholds.2 hraw with rfl | ⟨run, hend, rfl⟩
  · exact ⟨[], by decide, rfl, rfl⟩
  · have hne : run ≠ [] := h.1.kind
    refine ⟨run, hend, ?_, by rw [rawContent, if_neg hne]⟩
    change run ++ [] = run
    exact List.append_nil run

/-- What is below an element can be told from what is written behind the element. -/
theorem renderContent_append_inj (hholds : (NodeKind.element tag).Holds below)
    (hholds' : (NodeKind.element tag).Holds below') (h : below.IsCanonical)
    (h' : below'.IsCanonical) (hsound' : below'.IsSound) (hread : below.CanBeRead)
    (heq : renderContent tag below ++ y = renderContent tag below' ++ y') :
    below = below' ∧ y = y' := by
  by_cases hvoid : tag.isVoid = true
  · rw [renderContent, renderContent, if_pos hvoid, if_pos hvoid] at heq
    exact ⟨(hholds.1 hvoid).trans (hholds'.1 hvoid).symm, heq⟩
  · have hwritten (below : Forest Content) (y : Text) : renderContent tag below ++ y
        = below.render tag.isRaw ++ (renderEndTag tag ++ y) := by
      rw [renderContent, if_neg hvoid, List.append_assoc]
    rw [hwritten, hwritten] at heq
    by_cases hraw : tag.isRaw = true
    · obtain ⟨run, hend, hrun, hbelow⟩ := exists_rawContent hraw hholds h
      obtain ⟨run', hend', hrun', hbelow'⟩ := exists_rawContent hraw hholds' h'
      rw [hraw, hrun, hrun', renderEndTag_append, renderEndTag_append] at heq
      obtain ⟨hsame, hname⟩ := Text.append_mark_inj (by decide) hend hend' heq
      have hrest : '>' :: y = '>' :: y' := List.append_cancel_left hname
      exact ⟨by rw [hbelow, hbelow', hsame], (List.cons.inj hrest).2⟩
    · rw [Bool.not_eq_true] at hraw
      rw [hraw] at heq
      obtain ⟨hsame, hrest⟩ := hread _ _ _ h' hsound' (Lead.ofText_renderEndTag_append tag y)
        (Lead.ofText_renderEndTag_append tag y') heq
      exact ⟨hsame, List.append_cancel_left hrest⟩

namespace Forest

/-- The first trees of two forests that are written alike are equal, and so is what is
written behind them. -/
theorem first_append_inj (h : IsCanonical (.cons content below behind))
    (h' : IsCanonical (.cons content' below' behind'))
    (hsound : IsSound (.cons content below behind))
    (hsound' : IsSound (.cons content' below' behind'))
    (hrest : Lead.ofText rest = .stop) (hrest' : Lead.ofText rest' = .stop)
    (hread : below.CanBeRead) (hlead : Lead.ofKind content.kind = Lead.ofKind content'.kind)
    (heq : render false (.cons content below behind) ++ rest
      = render false (.cons content' below' behind') ++ rest') :
    content = content' ∧ below = below' ∧
      behind.render false ++ rest = behind'.render false ++ rest' := by
  obtain ⟨hcontent, hholds, hapart, hbelow, hbehind⟩ := h
  obtain ⟨hcontent', hholds', hapart', hbelow', hbehind'⟩ := h'
  obtain ⟨hself, -, -⟩ := isSound_cons_iff.1 hsound
  obtain ⟨hself', hsoundBelow', -⟩ := isSound_cons_iff.1 hsound'
  obtain ⟨kind, attributes⟩ := content
  obtain ⟨kind', attributes'⟩ := content'
  -- only elements show attributes, and only they have any
  cases kind with
  | document => exact absurd hcontent.kind id
  | doctype name =>
    cases kind' with
    | doctype name' =>
      obtain rfl : attributes = .empty := hself.attributes_eq_empty rfl
      obtain rfl : attributes' = .empty := hself'.attributes_eq_empty rfl
      rw [render_doctype_append, render_doctype_append] at heq
      obtain ⟨rfl, hlater⟩ :=
        Text.append_cons_inj hcontent.kind hcontent'.kind (List.append_cancel_left heq)
      exact ⟨rfl, hholds.trans hholds'.symm, hlater⟩
    | _ => cases hlead
  | element tag =>
    cases kind' with
    | element tag' =>
      rw [render_element_append, render_element_append] at heq
      obtain ⟨rfl, rfl, hinside⟩ := renderStartTag_append_inj hcontent hcontent' heq
      obtain ⟨hsame, hlater⟩ :=
        renderContent_append_inj hholds hholds' hbelow hbelow' hsoundBelow' hread hinside
      exact ⟨rfl, hsame, hlater⟩
    | _ => cases hlead
  | text run =>
    cases kind' with
    | text run' =>
      obtain rfl : attributes = .empty := hself.attributes_eq_empty rfl
      obtain rfl : attributes' = .empty := hself'.attributes_eq_empty rfl
      rw [render_text_append, render_text_append] at heq
      have hstop {run : Text} : ∀ c ∈ Escape.text run, (c == '<') = false := by
        intro c hc
        simpa using ne_of_mem_of_not_mem hc (Escape.lt_notMem_text run)
      -- no text follows, so what follows begins with a tag
      have hnext := Lead.ofText_render hbehind hrest ▸ Lead.ofForest_ne_text (hapart rfl)
      have hnext' := Lead.ofText_render hbehind' hrest' ▸ Lead.ofForest_ne_text (hapart' rfl)
      obtain ⟨hrun, hlater⟩ := Text.append_inj_of_stop hstop hstop
        (Lead.head?_eq_of_ofText_ne hnext) (Lead.head?_eq_of_ofText_ne hnext') heq
      obtain rfl : run = run' := Escape.text_injective hrun
      exact ⟨rfl, hholds.trans hholds'.symm, hlater⟩
    | _ => cases hlead
  | comment note =>
    cases kind' with
    | comment note' =>
      obtain rfl : attributes = .empty := hself.attributes_eq_empty rfl
      obtain rfl : attributes' = .empty := hself'.attributes_eq_empty rfl
      have hmark : ¬ ['-', '-'] ++ ['>'] <:+: note := hcontent.kind
      have hmark' : ¬ ['-', '-'] ++ ['>'] <:+: note' := hcontent'.kind
      rw [render_comment_append, render_comment_append] at heq
      obtain ⟨rfl, hlater⟩ :=
        Text.append_mark_inj (by decide) hmark hmark' (List.append_cancel_left heq)
      exact ⟨rfl, hholds.trans hholds'.symm, hlater⟩
    | _ => cases hlead

/-! ## Forests and documents -/

/-- **A canonical forest can be read back**, whatever stands behind it, unless that begins
another node. -/
theorem IsCanonical.canBeRead (h : f.IsCanonical) (hsound : f.IsSound) : f.CanBeRead := by
  induction f with
  | nil =>
    intro f' rest rest' h' hsound' hrest hrest' heq
    have hlead : Lead.ofForest .nil = Lead.ofForest f' := by
      rw [← Lead.ofText_render h hrest, heq, Lead.ofText_render h' hrest']
    cases f' with
    | nil => exact ⟨rfl, heq⟩
    | cons content' below' behind' => exact absurd hlead.symm (Lead.ofKind_ne_stop h'.1.kind)
  | cons content below behind ihbelow ihbehind =>
    intro f' rest rest' h' hsound' hrest hrest' heq
    have hlead : Lead.ofKind content.kind = Lead.ofForest f' := by
      rw [← Lead.ofText_render h' hrest', ← heq, Lead.ofText_render h hrest, Lead.ofForest]
    cases f' with
    | nil => exact absurd hlead (Lead.ofKind_ne_stop h.1.kind)
    | cons content' below' behind' =>
      obtain ⟨-, -, -, hbelow, hbehind⟩ := id h
      obtain ⟨-, -, -, -, hbehind'⟩ := id h'
      obtain ⟨-, hsoundBelow, hsoundBehind⟩ := isSound_cons_iff.1 hsound
      obtain ⟨-, -, hsoundBehind'⟩ := isSound_cons_iff.1 hsound'
      obtain ⟨rfl, rfl, hlater⟩ := first_append_inj h h' hsound hsound' hrest hrest'
        (ihbelow hbelow hsoundBelow) hlead heq
      obtain ⟨rfl, rfl⟩ :=
        ihbehind hbehind hsoundBehind _ _ _ hbehind' hsoundBehind' hrest hrest' hlater
      exact ⟨rfl, rfl⟩

end Forest

namespace Document

variable {d d' : Document} {handles : List Handle}

/-- Nodes form one forest only. -/
theorem Forms.unique (h : d.Forms handles f) (h' : d.Forms handles f') : f = f' := by
  induction h generalizing f' with
  | nil =>
    cases h'
    rfl
  | cons hcontent _ _ ihbelow ihbehind =>
    cases h' with
    | cons hcontent' hbelow' hbehind' =>
      cases hcontent.symm.trans hcontent'
      rw [ihbelow hbelow', ihbehind hbehind']

namespace WellFormed

/-- The nodes of a well-formed document are sound. -/
theorem isSound_of_forms (h : d.WellFormed) (hforms : d.Forms handles f) : f.IsSound := by
  induction hforms with
  | nil => exact fun _ hmem => nomatch hmem
  | cons hcontent _ _ ihbelow ihbehind =>
    exact Forest.isSound_cons_iff.2 ⟨h.isSound hcontent, ihbelow, ihbehind⟩

/-- The forest that children unfold into is the one that they form. -/
theorem forms_of_unfolds (h : d.WellFormed) {nodes : Forest Handle}
    (hunfolds : Forest.Unfolds d.children handles nodes) (hexist : ∀ n ∈ handles, n < d.size) :
    d.Forms handles (d.contents nodes) := by
  induction nodes generalizing handles with
  | nil =>
    rw [Forest.unfolds_nil_iff.1 hunfolds]
    exact .nil
  | cons n below behind ihbelow ihbehind =>
    obtain ⟨rfl, hbelow, hbehind⟩ := Forest.unfolds_cons_iff.1 hunfolds
    obtain ⟨hn, hlater⟩ := List.forall_mem_cons.1 hexist
    have hcontent : d.content? n = some ((d.content? n).getD (.ofKind .document)) := by
      rw [content?, Array.getElem?_eq_getElem hn]
      rfl
    exact .cons hcontent (ihbelow hbelow fun c hc => (h.mem_children_iff.1 hc).child_lt)
      (ihbehind hbehind hlater)

/-- Walking down from a node finds the forest that its children form. -/
theorem forms_subtree (h : d.WellFormed) (n : Handle) :
    d.Forms (d.children n) (d.contents (d.subtree n)) :=
  h.forms_of_unfolds (h.unfolds_subtree n) fun _ hc => (h.mem_children_iff.1 hc).child_lt

/-- What is printed of a well-formed document is the forest that is formed below its root. -/
theorem toHtml_eq (h : d.WellFormed) (hforms : d.Forms (d.children root) f) :
    d.toHtml = f.render false := by
  rw [hforms.unique (h.forms_subtree root)]
  have htree : d.tree root = .single (.ofKind .document) (d.contents (d.subtree root)) := by
    change Forest.single ((d.content? root).getD _) (d.contents (d.subtree root)) = _
    rw [h.content?_root, Option.getD_some]
  rw [toHtml, outerHtml, htree]
  change (d.contents (d.subtree root)).render false ++ [] = _
  rw [List.append_nil]

end WellFormed

/-- **Printing loses nothing.**  Two canonical documents that are written alike have the same
tree: the same nodes in the same places, with the same names, attributes and texts.  Documents
that come from the empty one by operations are well-formed. -/
theorem sameTree_of_toHtml_eq (h : d.WellFormed) (h' : d'.WellFormed) (hcanonical : d.IsCanonical)
    (hcanonical' : d'.IsCanonical) (heq : d.toHtml = d'.toHtml) : d.SameTree d' := by
  obtain ⟨f, hforms, hf⟩ := hcanonical
  obtain ⟨f', hforms', hf'⟩ := hcanonical'
  have hwritten : f.render false ++ [] = f'.render false ++ [] := by
    rw [List.append_nil, List.append_nil, ← h.toHtml_eq hforms, ← h'.toHtml_eq hforms', heq]
  obtain ⟨rfl, -⟩ := hf.canBeRead (h.isSound_of_forms hforms) _ _ _ hf'
    (h'.isSound_of_forms hforms') rfl rfl hwritten
  exact ⟨.single (.ofKind .document) f, .cons h.content?_root hforms .nil,
    .cons h'.content?_root hforms' .nil⟩

/-- A comment, and an element with a qualifier around a text that holds a mark. -/
def noteForest : Forest Content :=
  .cons (.ofKind (.comment "->".toList)) .nil
    (.single ⟨.element ⟨some "x".toList, "br".toList⟩, ⟨[("title".toList, "\"".toList)]⟩⟩
      (.single (.ofKind (.text "a<b".toList)) .nil))

/-- The operations that make a document with this forest below its root. -/
def note : List Operation :=
  [.createComment "->".toList, .append root 1,
    .appendElement root ⟨some "x".toList, "br".toList⟩ [("title".toList, "\"".toList)],
    .createText "a<b".toList, .append 2 3]

/-- Operations that make it from inside out. -/
def noteInsideOut : List Operation :=
  [.createText "a<b".toList, .createElement ⟨some "x".toList, "br".toList⟩, .append 2 1,
    .append root 2, .createComment "->".toList, .append root 3, .append root 2,
    .setAttribute 2 "title".toList "\"".toList]

theorem isCanonical_noteForest : noteForest.IsCanonical := by
  have hqualifier : TagName.IsPlainPart "x".toList :=
    ⟨by decide, by decide, by simp [Text.isBlank], by simp⟩
  have hlocal : TagName.IsPlainPart "br".toList :=
    ⟨by decide, by decide, by simp [Text.isBlank], by simp⟩
  have hname : IsPlainAttribute "title".toList := ⟨by decide, by simp [Text.isBlank], by simp⟩
  have hcomment : ¬ "-->".toList <:+: "->".toList := by decide
  have htext : "a<b".toList ≠ [] := by decide
  have hnone {kind : NodeKind} : ∀ entry ∈ (Content.ofKind kind).attributes.entries,
      IsPlainAttribute entry.1 := by simp [Content.ofKind]
  refine ⟨⟨hcomment, hnone⟩, rfl, ?_, trivial, ⟨⟨hlocal, ?_⟩, ?_⟩, ⟨?_, ?_⟩, ?_, ?_, trivial⟩
  · intro htext
    cases htext
  · simpa using hqualifier
  · simpa using hname
  · intro hvoid
    cases hvoid
  · intro hraw
    cases hraw
  · intro htext
    cases htext
  · exact ⟨⟨htext, hnone⟩, rfl, by simp, trivial, trivial⟩

theorem sameTree_of_toHtml_eq_note :
    (run note).WellFormed ∧ (run noteInsideOut).WellFormed ∧ (run note).IsCanonical ∧
      (run noteInsideOut).IsCanonical ∧ (run note).toHtml = (run noteInsideOut).toHtml ∧
      (run note).SameTree (run noteInsideOut) := by
  have h : (run note).WellFormed := wellFormed_run (by decide +kernel)
  have h' : (run noteInsideOut).WellFormed := wellFormed_run (by decide +kernel)
  have hforest : (run note).contents ((run note).subtree root) = noteForest := by decide +kernel
  have hforest' : (run noteInsideOut).contents ((run noteInsideOut).subtree root) = noteForest := by
    decide +kernel
  have hcanonical : (run note).IsCanonical :=
    ⟨noteForest, hforest ▸ h.forms_subtree root, isCanonical_noteForest⟩
  have hcanonical' : (run noteInsideOut).IsCanonical :=
    ⟨noteForest, hforest' ▸ h'.forms_subtree root, isCanonical_noteForest⟩
  have heq : (run note).toHtml = (run noteInsideOut).toHtml := by decide +kernel
  exact ⟨h, h', hcanonical, hcanonical', heq,
    sameTree_of_toHtml_eq h h' hcanonical hcanonical' heq⟩

end Document

end StyleInline
