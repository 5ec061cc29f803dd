import StyleInline.Document.Markup
import StyleInline.Document.Navigation
import StyleInline.Document.Printer
import StyleInline.Filter.Files
import StyleInline.Styling

/-!
# Filters

A filter turns pages into styled pages by one stylesheet.  The stylesheet is read from
its file when the first page comes, and kept from then on, whatever becomes of the file.
A stylesheet that cannot be loaded is not kept, and the next page tries again.  Pages are
read by any reader that the filter is given.

## Main definitions

* `Filter` — a path and, once it has been loaded, the compiled sheet.
* `FilterError` — why a page cannot be filtered, with the chain of causes.
* `Filter.ofText`, `Filter.ofPath` — a filter from text and from a file.
* `Filter.filter` — one page.
-/

namespace StyleInline

/-- Why a page cannot be filtered. -/
inductive FilterError where
  /-- No stylesheet is named. -/
  | emptyIdentifier
  /-- The file of the stylesheet cannot be read. -/
  | unreadable (path : Text) (cause : ReadError)
  /-- The stylesheet in the file at `path`, or the one given as text, cannot be used. -/
  | unusable (path : Option Text) (cause : StyleError)
  /-- The page cannot be stored. -/
  | unstorable (cause : DocumentError)
deriving Repr, DecidableEq

namespace FilterError

/-- The causes of a stylesheet that cannot be used, outermost first.  What is wrong with
a selector is reported in its place in the stylesheet and by itself. -/
def causes : StyleError → List Text
  | .stylesheet cause => [cause.message]
  | .selector cause => [(StyleError.selector cause).message, cause.message]

/-- The wording of an error and its causes, outermost first. -/
def chain : FilterError → List Text
  | emptyIdentifier => ["stylesheet identifier cannot be empty".toList]
  | unreadable path cause => ["Failed to read stylesheet ".toList ++ path, cause.message]
  | unusable (some path) cause => ("Failed to compile stylesheet ".toList ++ path) :: causes cause
  | unusable none cause => "Failed to compile inline stylesheet".toList :: causes cause
  | unstorable cause => ["Failed to build HTML document".toList, cause.message]

end FilterError

/-- A stylesheet, loaded or still to be loaded. -/
structure Filter where
  path : Text
  sharesSelectors : Bool
  sheet : Option CompiledSheet
deriving Repr, DecidableEq

namespace Filter

/-- A filter whose stylesheet lies in a file. -/
def ofPath (path : Text) (sharesSelectors : Bool) : Filter := ⟨path, sharesSelectors, none⟩

/-- A filter whose stylesheet is given as text. -/
def ofText (text : Text) : Except FilterError Filter :=
  match CompiledSheet.ofText text with
  | .error e => .error (.unusable none e)
  | .ok sheet => .ok ⟨[], false, some sheet⟩

/-- Whether the stylesheet has been loaded. -/
def isLoaded (f : Filter) : Bool := f.sheet.isSome

/-- The compiled form of a text.  A filter that shares its selectors reads them with the
help of the memo. -/
def compile (sharesSelectors : Bool) (memo : SelectorMemo) (text : Text) :
    Except StyleError CompiledSheet × SelectorMemo :=
  if sharesSelectors then CompiledSheet.ofTextWith memo text
  else (CompiledSheet.ofText text, memo)

/-- Reads the stylesheet as it lies in the file now. -/
def load (f : Filter) (files : Files) (memo : SelectorMemo) :
    Except FilterError CompiledSheet × SelectorMemo :=
  match files.readText f.path with
  | .error e => (.error (.unreadable f.path e), memo)
  | .ok text =>
    let answer := compile f.sharesSelectors memo text
    (answer.1.mapError (.unusable (some f.path)), answer.2)

/-- The page after a sheet has been applied to it: it is read, styled and written. -/
def restyle (read : PageReader) (sheet : CompiledSheet) (page : Text) : Except FilterError Text :=
  match (read page).toDocument with
  | .error e => .error (.unstorable e)
  | .ok d => .ok (sheet.apply d).toHtml

/-- Makes sure that the stylesheet is loaded. -/
def ensureLoaded (f : Filter) (files : Files) (memo : SelectorMemo) :
    Except FilterError CompiledSheet × Filter × SelectorMemo :=
  match f.sheet with
  | some sheet => (.ok sheet, f, memo)
  | none =>
    match f.load files memo with
    | (.ok sheet, memo) => (.ok sheet, { f with sheet := some sheet }, memo)
    | (.error e, memo) => (.error e, f, memo)

/-- Filters a page, loading the stylesheet first if that is still to be done. -/
def filter (read : PageReader) (f : Filter) (files : Files) (memo : SelectorMemo) (page : Text) :
    Except FilterError Text × Filter × SelectorMemo :=
  match f.ensureLoaded files memo with
  | (.ok sheet, f, memo) => (restyle read sheet page, f, memo)
  | (.error e, f, memo) => (.error e, f, memo)

@[simp] theorem isLoaded_ofPath (path : Text) (sharesSelectors : Bool) :
    (ofPath path sharesSelectors).isLoaded = false := rfl

/-- With a sound memo it makes no difference to what is compiled whether selectors are
shared. -/
theorem fst_compile {memo : SelectorMemo} (h : memo.Sound) (sharesSelectors : Bool)
    (text : Text) : (compile sharesSelectors memo text).1 = CompiledSheet.ofText text := by
  unfold compile CompiledSheet.ofTextWith CompiledSheet.ofText
  split
  · cases Stylesheet.parse text with
    | error e => rfl
    | ok sheet =>
      simp [CompiledSheet.ofSheetWith, CompiledSheet.ofSheet,
        CompiledSheet.fst_compileRulesWith h]
  · rfl

end Filter

end StyleInline
