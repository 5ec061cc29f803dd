import StyleInline.Declaration.Basic
import StyleInline.Stylesheet.Error

/-!
# Reading declarations

A list of declarations is read segment by segment.  Segments are the parts between
semicolons, trimmed; blank ones count for nothing.  A segment must hold a colon
with something before it.  A stylesheet insists on that; a style attribute, whose
author may be anyone, gives up the segments that do not comply and reports them.

## Main definitions

* `Declaration.ofSegment?` — one declaration from one segment.
* `Declarations.parse` — the strict reading of a whole list.
* `Declarations.salvage` — the lenient reading, and `Declarations.malformedSegments`, the
  segments it gave up.

## Main results

* `Declarations.parse_eq` — the strict reading in terms of the lenient one.
-/

namespace StyleInline

namespace Declaration

/-- The declaration that a segment states: the property stands before the first
colon, in any case, the value behind it.  A segment without a colon, or with nothing
but blanks before it, states none. -/
def ofSegment? (segment : Text) : Option Declaration :=
  match Text.cut? ':' segment with
  | none => none
  | some (before, after) =>
    match Text.trim before with
    | [] => none
    | property => some (Text.lower property, Text.trim after)

end Declaration

namespace Declarations

/-- The segments of a list of declarations: the trimmed parts between semicolons
that are not blank. -/
def segments (text : Text) : List Text :=
  ((Text.splitOn ';' text).map Text.trim).filter (!·.isEmpty)

/-- The declarations that all segments state, or the first segment that states none. -/
def readSegments : List Text → Except SyntaxError (List Declaration)
  | [] => .ok []
  | segment :: rest =>
    match Declaration.ofSegment? segment with
    | none => .error (.malformedDeclaration segment)
    | some d =>
      match readSegments rest with
      | .error e => .error e
      | .ok ds => .ok (d :: ds)

/-- Reads a list of declarations; every segment must state one. -/
def parse (text : Text) : Except SyntaxError Declarations :=
  (readSegments (segments text)).map OrderedMap.ofList

/-- The segments that state no declaration, in the order of the text. -/
def malformedSegments (text : Text) : List Text :=
  (segments text).filter fun segment => (Declaration.ofSegment? segment).isNone

/-- Reads what can be read of a list of declarations. -/
def salvage (text : Text) : Declarations :=
  OrderedMap.ofList ((segments text).filterMap Declaration.ofSegment?)

@[simp] theorem readSegments_nil : readSegments [] = .ok [] := rfl

/-- The strict reading gives what the segments state, unless there is one that states
nothing; then the first of these is the error. -/
theorem readSegments_eq (segs : List Text) :
    readSegments segs =
      match segs.filter fun segment => (Declaration.ofSegment? segment).isNone with
      | [] => .ok (segs.filterMap Declaration.ofSegment?)
      | segment :: _ => .error (.malformedDeclaration segment) := by
  induction segs with
  | nil => rfl
  | cons segment rest ih =>
    rw [readSegments, ih, List.filter_cons, List.filterMap_cons]
    cases Declaration.ofSegment? segment with
    | none => rfl
    | some d =>
      cases rest.filter fun segment => (Declaration.ofSegment? segment).isNone <;> rfl

/-- **The strict reading is the lenient one**, unless that gives a segment up; then the first
segment that it gives up is the error. -/
theorem parse_eq (text : Text) :
    parse text =
      match malformedSegments text with
      | [] => .ok (salvage text)
      | segment :: _ => .error (.malformedDeclaration segment) := by
  rw [parse, readSegments_eq, ← malformedSegments]
  cases malformedSegments text <;> rfl

/-- The strict reading succeeds when the lenient one gives nothing up, with the same block. -/
theorem parse_eq_ok_iff {text : Text} {block : Declarations} :
    parse text = .ok block ↔ malformedSegments text = [] ∧ salvage text = block := by
  rw [parse_eq]
  cases malformedSegments text <;> simp

/-- The strict reading fails when the lenient one gives something up, with the first segment
of it. -/
theorem parse_eq_error_iff {text : Text} {e : SyntaxError} :
    parse text = .error e ↔
      ∃ segment later, malformedSegments text = segment :: later ∧
        e = .malformedDeclaration segment := by
  rw [parse_eq]
  cases malformedSegments text <;> simp [eq_comm]

end Declarations

end StyleInline
