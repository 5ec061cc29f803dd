import StyleInline.Declaration.Segment
import StyleInline.Declaration.Shorthand
import StyleInline.Proofs.OrderedMap.Overlay

/-!
# Blocks of declarations as ordered maps

A block comes from the empty one by writes and merges, from a list of writes, by reading a text
strictly or leniently, and by expanding the shorthands of another.  None of this makes a
property stand twice, and on such blocks writes and merges have the laws of ordered maps: a
write is seen at its property and moves nothing, and merging is associative, with the empty
block as identity on both sides.

## Main definitions

* `OrderedMap.IsWrite` — what one write does.
* `OrderedMap.Lawful` — the laws of writes and merges.
* `Declarations.Built` — the blocks that can be built.

## Main results

* `OrderedMap.lawful_of_distinct` — maps with distinct keys have the laws.
* `Declarations.Built.distinct`, `Declarations.Built.lawful` — in no block that can be built does
  a property stand twice, and so all of them have the laws.
-/

namespace StyleInline

/-! ## Laws -/

namespace OrderedMap

variable {κ ν : Type} [DecidableEq κ] {a b : OrderedMap κ ν}

/-- `written` is `m` with `v` written at `k`, where `former` was: every other key has the value
that it had, and every entry stands where it stood. -/
structure IsWrite (m : OrderedMap κ ν) (k : κ) (v : ν) (former : Option ν)
    (written : OrderedMap κ ν) : Prop where
  former_eq : former = m.get? k
  get?_self : written.get? k = some v
  get?_of_ne : ∀ j, j ≠ k → written.get? j = m.get? j
  getElem?_eq : ∀ (i : Nat) (e : κ × ν), m.entries[i]? = some e →
    written.entries[i]? = some (e.1, if e.1 = k then v else e.2)

/-- A write into a map with distinct keys, with the value that it gives back. -/
theorem isWrite_getThenInsert? (h : a.Distinct) (k : κ) (v : ν) :
    IsWrite a k v (a.getThenInsert? k v).1 (a.getThenInsert? k v).2 := by
  rw [fst_getThenInsert?, snd_getThenInsert?]
  exact {
    former_eq := rfl
    get?_self := by rw [get?_insert, if_pos rfl]
    get?_of_ne := fun j hj => by rw [get?_insert, if_neg (Ne.symm hj)]
    getElem?_eq := fun _ _ => getElem?_entries_insert h k v }

/-- The laws of writes and merges, for three maps. -/
structure Lawful (a b c : OrderedMap κ ν) : Prop where
  nodup_keys : a.keys.Nodup
  isWrite : ∀ k v, IsWrite a k v (a.getThenInsert? k v).1 (a.getThenInsert? k v).2
  merge_assoc : (a.merge b).merge c = a.merge (b.merge c)
  empty_merge : empty.merge a = a
  merge_empty : a.merge empty = a
  merge_self : a.merge a = a
  keys_merge : (a.merge b).keys = a.keys ++ b.keys.filter (· ∉ a.keys)
  get?_merge : ∀ k, (a.merge b).get? k = (b.get? k).or (a.get? k)

/-- Maps with distinct keys have the laws. -/
theorem lawful_of_distinct (ha : a.Distinct) (hb : b.Distinct) (c : OrderedMap κ ν) :
    Lawful a b c where
  nodup_keys := ha
  isWrite := isWrite_getThenInsert? ha
  merge_assoc := OrderedMap.merge_assoc hb a c
  empty_merge := ofList_entries ha
  merge_empty := rfl
  merge_self := OrderedMap.merge_self ha
  keys_merge := OrderedMap.keys_merge hb a
  get?_merge _ := OrderedMap.get?_merge hb

end OrderedMap

/-! ## Blocks -/

namespace Declarations

variable {a b block : Declarations}

/-- The blocks that can be built. -/
inductive Built : Declarations → Prop
  | empty : Built .empty
  | insert {block : Declarations} (h : Built block) (property value : Text) :
    Built (block.getThenInsert? property value).2
  | merge {block other : Declarations} (h : Built block) (hother : Built other) :
    Built (block.merge other)
  | ofList (writes : List Declaration) : Built (.ofList writes)
  | parse {text : Text} {block : Declarations} (h : Declarations.parse text = .ok block) :
    Built block
  | salvage (text : Text) : Built (Declarations.salvage text)
  | expand {block : Declarations} (h : Built block) : Built block.expand

/-- However a block is built, no property stands in it twice. -/
theorem Built.distinct (h : Built block) : block.Distinct := by
  induction h with
  | empty => exact OrderedMap.distinct_empty
  | insert _ property value ih =>
    rw [OrderedMap.snd_getThenInsert?]
    exact OrderedMap.distinct_insert ih property value
  | merge _ _ ih _ => exact OrderedMap.distinct_merge ih _
  | ofList writes => exact OrderedMap.distinct_ofList writes
  | parse h =>
    obtain ⟨-, rfl⟩ := parse_eq_ok_iff.1 h
    exact OrderedMap.distinct_ofList _
  | salvage text => exact OrderedMap.distinct_ofList _
  | expand _ _ => exact OrderedMap.distinct_ofList _

/-- **Blocks are ordered maps, and merging makes a monoid of them**, in which every block is
idempotent. -/
theorem Built.lawful (ha : Built a) (hb : Built b) (c : Declarations) :
    OrderedMap.Lawful a b c :=
  OrderedMap.lawful_of_distinct ha.distinct hb.distinct c

/-- What `color: red; margin: 0; COLOR: blue` is read as. -/
def colorBlock : Declarations :=
  ⟨[("color".toList, "blue".toList), ("margin".toList, "0".toList)]⟩

theorem lawful_colorBlock :
    (Built colorBlock ∧ Built colorBlock.expand) ∧
      OrderedMap.Lawful colorBlock colorBlock.expand (salvage "color; Margin: 1px".toList) :=
  have hread : Built colorBlock :=
    .parse (show parse "color: red; margin: 0; COLOR: blue".toList = .ok colorBlock by decide)
  ⟨⟨hread, hread.expand⟩, hread.lawful hread.expand _⟩

end Declarations

end StyleInline
