import Mathlib.Data.List.Triplewise
import StyleInline.Proofs.Declaration.RoundTrip
import StyleInline.Proofs.Outcome
import StyleInline.Declaration.Shorthand

/-!
# The last declaration

A longhand may be set by itself and by a shorthand, so several declarations of a block can set
it, and in the expanded block the last of them decides.  Declarations that are read do not all
get a place in the block: one whose property was declared before takes the place of the
earlier one.  So the last declaration of the block need not be the last one of the text: in
`margin-top: 1px; margin: 2px; margin-top: 3px` it is `margin`.  It is the last one of the
text when no property is declared again around another one that sets the longhand, nor with a
value that does not set it.

## Main definitions

* `Declaration.sets?` — what a declaration sets a property to.
* `Declaration.lastSet?` — the value that the last declaration to set a property gives it.
* `Declaration.Undisturbed` — repetitions do not change which declaration is the last one.

## Main results

* `Declarations.get?_expand` — the expanded block, one property at a time.
* `Declarations.lastSet?_entries_ofList` — the last one of the block is that of the text.
-/

namespace StyleInline

/-! ## The last declaration to set a property -/

namespace Declaration

variable {p : Text} {d : Declaration} {ds later : List Declaration}

/-- What a declaration, expanded by itself, sets a property to. -/
def sets? (p : Text) (d : Declaration) : Option Text :=
  (Declarations.expand (OrderedMap.ofList [d])).get? p

/-- The value that the last declaration to set `p` gives it. -/
def lastSet? (p : Text) (ds : List Declaration) : Option Text := ds.reverse.findSome? (sets? p)

@[simp] theorem lastSet?_nil (p : Text) : lastSet? p [] = none := rfl

theorem lastSet?_append (p : Text) (ds later : List Declaration) :
    lastSet? p (ds ++ later) = (lastSet? p later).or (lastSet? p ds) := by
  rw [lastSet?, List.reverse_append, List.findSome?_append]
  rfl

@[simp] theorem lastSet?_singleton (p : Text) (d : Declaration) : lastSet? p [d] = sets? p d := by
  rw [lastSet?, List.reverse_singleton, List.findSome?_singleton]

theorem lastSet?_cons (p : Text) (d : Declaration) (later : List Declaration) :
    lastSet? p (d :: later) = (lastSet? p later).or (sets? p d) := by
  rw [← List.singleton_append, lastSet?_append, lastSet?_singleton]

theorem lastSet?_eq_none_iff : lastSet? p ds = none ↔ ∀ d ∈ ds, sets? p d = none := by
  simp [lastSet?]

theorem sets?_eq (p : Text) (d : Declaration) :
    sets? p d = (OrderedMap.ofList d.longhands).get? p := by
  have hentries : (OrderedMap.ofList [d]).entries = [d] := rfl
  rw [sets?, Declarations.expand, hentries, List.flatMap_singleton]

/-- What the longhands of declarations leave at a property is what the last declaration to set
it sets. -/
theorem get?_ofList_flatMap_longhands (p : Text) (ds : List Declaration) :
    (OrderedMap.ofList (ds.flatMap longhands)).get? p = lastSet? p ds := by
  induction ds using List.reverseRecOn with
  | nil => rfl
  | append_singleton ds d ih =>
    rw [List.flatMap_append, List.flatMap_singleton, OrderedMap.ofList, OrderedMap.insertAll_append,
      ← OrderedMap.ofList, OrderedMap.get?_insertAll, ih, lastSet?_append, lastSet?_singleton,
      sets?_eq]

theorem lastSet?_flatMap_congr {ι : Type} {l : List ι} {f g : ι → List Declaration}
    (h : ∀ i ∈ l, lastSet? p (f i) = lastSet? p (g i)) :
    lastSet? p (l.flatMap f) = lastSet? p (l.flatMap g) := by
  induction l with
  | nil => rfl
  | cons i l ih =>
    rw [List.forall_mem_cons] at h
    rw [List.flatMap_cons, List.flatMap_cons, lastSet?_append, lastSet?_append, h.1, ih h.2]

/-! ## Repetitions -/

/-- Declaring a property again does not change which declaration is the last one to set `p`.
A declaration that takes the place of one that sets `p` sets it too, and one that sets it
takes no place in front of another property that does. -/
structure Undisturbed (p : Text) (ds : List Declaration) : Prop where
  kept : ds.Pairwise fun d e => d.1 = e.1 → (d.sets? p).isSome → (e.sets? p).isSome
  together : ds.Triplewise fun d between e =>
    d.1 = e.1 → (between.sets? p).isSome → (e.sets? p).isSome → between.1 = e.1

theorem undisturbed_iff : Undisturbed p ds ↔
    (ds.Pairwise fun d e => d.1 = e.1 → (d.sets? p).isSome → (e.sets? p).isSome) ∧
      ds.Triplewise fun d between e =>
        d.1 = e.1 → (between.sets? p).isSome → (e.sets? p).isSome → between.1 = e.1 :=
  ⟨fun ⟨hkept, htogether⟩ => ⟨hkept, htogether⟩, fun ⟨hkept, htogether⟩ => ⟨hkept, htogether⟩⟩

/-- Whether a relation holds of three elements of a list in a row is decided element by
element. -/
def decidableTriplewise {α : Type} (R : α → α → α → Prop) [∀ a b c, Decidable (R a b c)] :
    (l : List α) → Decidable (l.Triplewise R)
  | [] => isTrue .nil
  | a :: l =>
    have := decidableTriplewise R l
    decidable_of_iff' (l.Pairwise (R a) ∧ l.Triplewise R) List.triplewise_cons

instance (p : Text) (ds : List Declaration) : Decidable (Undisturbed p ds) :=
  have := decidableTriplewise (fun d between e : Declaration =>
    d.1 = e.1 → (between.sets? p).isSome → (e.sets? p).isSome → between.1 = e.1) ds
  decidable_of_iff' _ undisturbed_iff

theorem Undisturbed.of_append (h : Undisturbed p (ds ++ later)) :
    Undisturbed p ds ∧ Undisturbed p later := by
  obtain ⟨hds, hlater, -⟩ := List.pairwise_append.1 h.kept
  obtain ⟨hds', hlater', -⟩ := List.triplewise_append.1 h.together
  exact ⟨⟨hds, hds'⟩, hlater, hlater'⟩

theorem Undisturbed.of_flatMap {ι : Type} {l : List ι} {f : ι → List Declaration}
    (h : Undisturbed p (l.flatMap f)) : ∀ i ∈ l, Undisturbed p (f i) := by
  induction l with
  | nil => simp
  | cons i l ih =>
    rw [List.flatMap_cons] at h
    exact List.forall_mem_cons.2 ⟨h.of_append.1, ih h.of_append.2⟩

end Declaration

/-! ## Blocks -/

namespace Declarations

open Declaration

variable {p : Text} {ds : List Declaration}

/-- In an expanded block the last declaration to set a property decides. -/
theorem get?_expand (block : Declarations) (p : Text) :
    block.expand.get? p = lastSet? p block.entries :=
  get?_ofList_flatMap_longhands p block.entries

/-- A declaration that is written into a block is the last one of it to set `p`, if it does,
provided that it sets `p` where it takes the place of one that does, and that it takes no place
in front of another property that does. -/
theorem lastSet?_entries_insert {block : Declarations} {q v : Text} (hblock : block.Distinct)
    (hkept : ∀ d ∈ block.entries, d.1 = q → (sets? p d).isSome → (sets? p (q, v)).isSome)
    (htogether : block.entries.Pairwise fun d between =>
      d.1 = q → (sets? p between).isSome → (sets? p (q, v)).isSome → between.1 = q) :
    lastSet? p (block.insert q v).entries = (sets? p (q, v)).or (lastSet? p block.entries) := by
  have hwritten := OrderedMap.written_insert block q v
  generalize block.insert q v = written at hwritten ⊢
  cases hwritten with
  | behind entries hnew => rw [lastSet?_append, lastSet?_singleton]
  | inPlace before after old hbefore =>
    rw [lastSet?_append, lastSet?_cons, lastSet?_append, lastSet?_cons]
    cases hset : sets? p (q, v) with
    | none =>
      have hold : sets? p (q, old) = none := by
        have hreplaced := hkept (q, old) (by simp) rfl
        simpa [hset] using hreplaced
      rw [hold, Option.none_or]
    | some value =>
      have hafter : lastSet? p after = none := by
        rw [lastSet?_eq_none_iff]
        intro x hx
        obtain ⟨-, hbehind, -⟩ := List.pairwise_append.1 htogether
        have hsame : (sets? p x).isSome → x.1 = q := by
          intro hsets
          exact (List.pairwise_cons.1 hbehind).1 x hx rfl hsets (by simp [hset])
        have hother : x.1 ≠ q := by
          rintro rfl
          exact hblock.notMem_behind (List.mem_map_of_mem hx)
        rw [← Option.not_isSome_iff_eq_none]
        intro hsets
        exact hother (hsame hsets)
      rw [hafter]
      rfl

/-- **The last declaration of the block is the last one of the text**, when repetitions do not
disturb it. -/
theorem lastSet?_entries_ofList (h : Undisturbed p ds) :
    lastSet? p (OrderedMap.ofList ds).entries = lastSet? p ds := by
  induction ds using List.reverseRecOn with
  | nil => rfl
  | append_singleton ds e ih =>
    obtain ⟨q, v⟩ := e
    obtain ⟨-, -, hkept⟩ := List.pairwise_append.1 h.kept
    obtain ⟨-, -, -, htogether⟩ := List.triplewise_append.1 h.together
    have hlast : (q, v) ∈ [(q, v)] := List.mem_singleton.2 rfl
    have horder : (OrderedMap.ofList ds).entries.Pairwise fun d between =>
        d.1 = q → (sets? p between).isSome → (sets? p (q, v)).isSome → between.1 = q :=
      OrderedMap.pairwise_entries_ofList
        (R := fun k between => k = q → (sets? p between).isSome → (sets? p (q, v)).isSome →
          between.1 = q) (htogether (q, v) hlast)
    rw [OrderedMap.ofList_append_singleton,
      lastSet?_entries_insert (OrderedMap.distinct_ofList ds)
        (fun d hd => hkept d (OrderedMap.mem_entries_ofList hd) (q, v) hlast) horder,
      ih h.of_append.1, lastSet?_append, lastSet?_singleton]

/-! ## The declarations of a text -/

/-- The declarations of a text in source order, repetitions included. -/
def stated (text : Text) : List Declaration := (segments text).filterMap Declaration.ofSegment?

/-- A text is read when each segment states a declaration. -/
theorem isOk_parse_iff {text : Text} :
    (parse text).isOk = true ↔ malformedSegments text = [] := by
  rw [parse_eq]
  cases malformedSegments text <;> simp

/-- What is read of a text is what its declarations leave behind. -/
theorem parse_eq_of_isOk {text : Text} (h : (parse text).isOk = true) :
    parse text = .ok (OrderedMap.ofList (stated text)) :=
  parse_eq_ok_iff.2 ⟨isOk_parse_iff.1 h, rfl⟩

/-- The segments around a semicolon are those on its two sides. -/
theorem segments_append_cons (before after : Text) :
    segments (before ++ ';' :: after) = segments before ++ segments after := by
  simp only [segments, Text.splitOn_eq, List.splitOn_append_cons_self, List.map_append,
    List.filter_append]

theorem segments_append_spaced (before after : Text) :
    segments (before ++ " ; ".toList ++ after) = segments before ++ segments after := by
  have hbefore : segments ([] ++ (before ++ [' '])) = segments before :=
    segments_append_of_blank (by simp) Text.isBlank_of_mem_space
  have hafter : segments ([' '] ++ (after ++ [])) = segments after :=
    segments_append_of_blank Text.isBlank_of_mem_space (by simp)
  have htext : before ++ " ; ".toList ++ after
      = ([] ++ (before ++ [' '])) ++ ';' :: ([' '] ++ (after ++ [])) := by simp
  rw [htext, segments_append_cons, hbefore, hafter]

/-- The segments of lists joined by semicolons are those of the lists. -/
theorem segments_intercalate (bodies : List Text) :
    segments (List.intercalate " ; ".toList bodies) = bodies.flatMap segments := by
  induction bodies with
  | nil => rfl
  | cons body later ih =>
    cases later with
    | nil => simp
    | cons next rest =>
      rw [List.intercalate_cons_cons, segments_append_spaced, ih, ← List.flatMap_cons]

/-- Declarations joined by semicolons stand in the order in which they are joined. -/
theorem stated_intercalate (bodies : List Text) :
    stated (List.intercalate " ; ".toList bodies) = bodies.flatMap stated := by
  rw [stated, segments_intercalate, List.filterMap_flatMap]
  rfl

end Declarations

end StyleInline
