import StyleInline.Document.Navigation
import StyleInline.Proofs.OrderedMap.Merge
import StyleInline.Proofs.Selector.Frame

/-!
# Writing attributes of a document

Writing an attribute changes one node and nothing of it but that attribute.  So the steps
between elements stay as they are, and selectors that do not look at the attribute select
what they selected before.

## Main definitions

* `Content.setAttribute`, `Node.setAttribute` — what becomes of the node written to.

## Main results

* `Document.setAttribute_of_isElement`, `Document.setAttribute_of_not_isElement` — elements take
  attributes, and other nodes refuse them.
* `Document.getElem?_writeAttribute` — all nodes after a write.
* `Document.agreeExcept_writeAttribute` — what a selector sees of it.
-/

namespace StyleInline

/-- What becomes of a node when an attribute is written to it: an element gets the attribute,
other nodes refuse it. -/
def Content.setAttribute (name value : Text) (content : Content) : Content :=
  if content.isElement then { content with attributes := content.attributes.insert name value }
  else content

/-- The node with one attribute written, if it is an element. -/
def Node.setAttribute (name value : Text) (node : Node) : Node :=
  { node with toContent := node.toContent.setAttribute name value }

namespace Content

variable {content : Content} {name other value value' : Text}

/-- An element is a node of that kind. -/
theorem isElement_iff : content.isElement = true ↔ ∃ tag, content.kind = .element tag := by
  rw [isElement]
  cases content.kind <;> simp

/-- The kind of a node is never changed. -/
@[simp] theorem kind_setAttribute : (content.setAttribute name value).kind = content.kind := by
  rw [setAttribute]
  split <;> rfl

@[simp] theorem isElement_setAttribute :
    (content.setAttribute name value).isElement = content.isElement := by
  rw [isElement, isElement, kind_setAttribute]

@[simp] theorem localName_setAttribute :
    (content.setAttribute name value).localName = content.localName := by
  rw [localName, localName, kind_setAttribute]

/-- An attribute that is written to an element is among its attributes. -/
theorem attributes_setAttribute (h : content.isElement = true) :
    (content.setAttribute name value).attributes = content.attributes.insert name value := by
  rw [setAttribute, if_pos h]

/-- An attribute that is written to an element is read back. -/
theorem attribute?_setAttribute_self (h : content.isElement = true) :
    (content.setAttribute name value).attribute? name = some value := by
  rw [attribute?, attributes_setAttribute h, OrderedMap.get?_insert, if_pos rfl]

/-- Other attributes stay as they are. -/
theorem attribute?_setAttribute_of_ne (h : other ≠ name) :
    (content.setAttribute name value).attribute? other = content.attribute? other := by
  rw [setAttribute]
  split
  · rw [attribute?, OrderedMap.get?_insert, if_neg (Ne.symm h), attribute?]
  · rfl

/-- Of two writes to an attribute the second counts. -/
theorem setAttribute_setAttribute :
    (content.setAttribute name value).setAttribute name value'
      = content.setAttribute name value' := by
  by_cases h : content.isElement = true
  · rw [setAttribute, if_pos (isElement_setAttribute.trans h), setAttribute, if_pos h,
      setAttribute, if_pos h, OrderedMap.insert_insert]
  · simp [setAttribute, h]

end Content

namespace Node

variable {node : Node} {name value : Text}

theorem setAttribute_of_isElement (h : node.isElement = true) : node.setAttribute name value =
    { node with attributes := node.attributes.insert name value } := by
  rw [setAttribute, Content.setAttribute, if_pos h]

theorem setAttribute_of_not_isElement (h : ¬ node.isElement = true) :
    node.setAttribute name value = node := by
  rw [setAttribute, Content.setAttribute, if_neg h]

end Node

namespace Document

variable {d d' : Document} {n m : Handle} {name other value : Text} {node : Node}

/-! ## Looking at a node -/

/-- An element is a node with the content of one. -/
theorem exists_node_of_isElement (h : d.isElement n = true) :
    ∃ node, d.nodes[n]? = some node ∧ node.toContent.isElement = true := by
  rw [isElement, content?, Option.any_map] at h
  exact (Option.any_eq_true _ _).1 h

theorem attribute?_of_getElem?_eq_some (h : d.nodes[n]? = some node) (name : Text) :
    d.attribute? n name = node.toContent.attribute? name := by
  rw [attribute?, content?, h]
  rfl

/-- The attributes of a node are its own. -/
theorem attribute?_congr (h : d.nodes[n]? = d'.nodes[n]?) (name : Text) :
    d.attribute? n name = d'.attribute? n name := by
  rw [attribute?, attribute?, content?, content?, h]

theorem isElement_of_getElem?_eq_some (h : d.nodes[n]? = some node) :
    d.isElement n = node.isElement := by
  rw [isElement, content?, h]
  rfl

/-! ## Writing to a node -/

/-- Writing an attribute to an element succeeds. -/
theorem setAttribute_of_isElement (h : d.isElement n = true) :
    d.setAttribute n name value = ⟨.ok (), d.writeAttribute n name value⟩ := by
  rw [writeAttribute, setAttribute, if_pos h]

/-- Any other node refuses attributes, and the document stays as it is. -/
theorem setAttribute_of_not_isElement (h : ¬ d.isElement n = true) :
    d.setAttribute n name value = ⟨.error (.notAnElement n), d⟩ := by
  rw [setAttribute, if_neg h]

/-- The nodes after an attribute has been written: one node is changed, if it is an element. -/
theorem getElem?_writeAttribute :
    (d.writeAttribute n name value).nodes[m]? =
      if n = m then d.nodes[m]?.map (Node.setAttribute name value) else d.nodes[m]? := by
  by_cases h : d.isElement n = true
  · obtain ⟨node, hnode, helement⟩ := exists_node_of_isElement h
    rw [writeAttribute, setAttribute, if_pos h, modify, Array.getElem?_modify]
    split
    · next hnm =>
      subst hnm
      rw [hnode, Option.map_some, Option.map_some, Node.setAttribute_of_isElement helement]
    · rfl
  · rw [writeAttribute, setAttribute_of_not_isElement h]
    split
    · next hnm =>
      subst hnm
      cases hnode : d.nodes[n]? with
      | none => rfl
      | some node =>
        rw [isElement_of_getElem?_eq_some hnode] at h
        rw [Option.map_some, Node.setAttribute_of_not_isElement h]
    · rfl

/-! ## What stays -/

/-- What does not look at the content of a node, or not at the attribute, is the same
after a write. -/
theorem observe_writeAttribute {β : Type} (f : Option Node → β)
    (hf : ∀ node, f (some (node.setAttribute name value)) = f (some node)) :
    f (d.writeAttribute n name value).nodes[m]? = f d.nodes[m]? := by
  rw [getElem?_writeAttribute]
  split
  · cases d.nodes[m]? with
    | none => rfl
    | some node => exact hf node
  · rfl

theorem content?_writeAttribute : (d.writeAttribute n name value).content? m =
    if n = m then (d.content? m).map (Content.setAttribute name value) else d.content? m := by
  rw [content?, content?, getElem?_writeAttribute]
  split_ifs
  · cases d.nodes[m]? <;> rfl
  · rfl

@[simp] theorem parent?_writeAttribute :
    (d.writeAttribute n name value).parent? m = d.parent? m :=
  observe_writeAttribute (fun node => node.bind (·.parent)) fun _ => rfl

@[simp] theorem children_writeAttribute :
    (d.writeAttribute n name value).children m = d.children m := by
  rw [children, children, getElem?_writeAttribute]
  split_ifs
  · cases d.nodes[m]? <;> rfl
  · rfl

@[simp] theorem isElement_writeAttribute :
    (d.writeAttribute n name value).isElement m = d.isElement m :=
  observe_writeAttribute (fun node => (node.map Node.toContent).any Content.isElement)
    fun _ => Content.isElement_setAttribute

@[simp] theorem localName_writeAttribute :
    (d.writeAttribute n name value).localName m = d.localName m := by
  rw [localName, localName, content?, content?, getElem?_writeAttribute]
  split_ifs
  · cases d.nodes[m]? <;> simp [Node.setAttribute]
  · rfl

/-- Other attributes stay as they are, also those of the node written to. -/
theorem attribute?_writeAttribute_of_ne (h : other ≠ name) :
    (d.writeAttribute n name value).attribute? m other = d.attribute? m other :=
  observe_writeAttribute (fun node => (node.map Node.toContent).bind (Content.attribute? other))
    fun _ => Content.attribute?_setAttribute_of_ne h

/-- After a write to one attribute, a selector sees a difference only in it. -/
theorem agreeExcept_writeAttribute (d : Document) (n : Handle) (name value : Text) :
    AgreeExcept name d (d.writeAttribute n name value) := by
  have hisElement : (d.writeAttribute n name value).isElement = d.isElement :=
    funext fun _ => isElement_writeAttribute
  have hsiblings (m : Handle) : (d.writeAttribute n name value).siblings m = d.siblings m := by
    simp only [siblings, parent?_writeAttribute, children_writeAttribute]
  exact {
    bound_eq := (size_writeAttribute d n name value).symm
    firstChild_eq := fun m => by
      change d.firstElementChild m = (d.writeAttribute n name value).firstElementChild m
      rw [firstElementChild, firstElementChild, children_writeAttribute, hisElement]
    nextSibling_eq := fun m => by
      change d.nextElement m = (d.writeAttribute n name value).nextElement m
      rw [nextElement, nextElement, siblingsAfter, siblingsAfter, hsiblings, hisElement]
    previousSibling_eq := fun m => by
      change d.previousElement m = (d.writeAttribute n name value).previousElement m
      rw [previousElement, previousElement, siblingsBefore, siblingsBefore, hsiblings, hisElement]
    localName_eq := fun _ => localName_writeAttribute.symm
    attribute?_eq := fun _ _ h => (attribute?_writeAttribute_of_ne h).symm }

/-! ## What the steps find -/

/-- The steps of a document lead to elements. -/
theorem isElement_of_mem_below (h : m ∈ (ElementTree.below d n).preorder) :
    d.isElement m = true := by
  have hforest (fuel : Nat) : ∀ start : Option Handle, (∀ e ∈ start, d.isElement e = true) →
      ∀ e ∈ (ElementTree.forestFrom d fuel start).preorder, d.isElement e = true := by
    induction fuel with
    | zero => simp [ElementTree.forestFrom]
    | succ fuel ih =>
      intro start hstart e he
      cases start with
      | none => simp at he
      | some root =>
        rw [ElementTree.forestFrom, Forest.preorder_cons, List.mem_cons, List.mem_append] at he
        rcases he with rfl | he | he
        · exact hstart e rfl
        · exact ih _ (fun _ hc => List.find?_some (l := d.children root) hc) e he
        · exact ih _ (fun _ hs => List.find?_some (l := d.siblingsAfter root) hs) e he
  exact hforest _ _ (fun _ hc => List.find?_some hc) m h

end Document

end StyleInline
