import StyleInline.Text.Blank

/-!
# Settings

Two variables of the environment say where stylesheets lie and whether filters share
the selectors that they have read.

## Main definitions

* `Settings` — the two settings.
* `Settings.ofVariables` — the settings that the environment states.
* `Settings.resolve` — the path of a stylesheet.
-/

namespace StyleInline

/-- Where stylesheets lie, and whether selectors are shared. -/
structure Settings where
  stylesheetRoot : Option Text
  sharesSelectors : Bool
deriving Repr, DecidableEq

namespace Settings

/-- No root, and selectors are shared. -/
def default : Settings := ⟨none, true⟩

instance : Inhabited Settings := ⟨default⟩

/-- The variable that names the root. -/
def rootVariable : Text := "CSSINLINE_STYLESHEET_ROOT".toList

/-- The variable that turns the sharing off when it is `0`. -/
def sharingVariable : Text := "CSSINLINE_SHARED_SELECTOR_CACHE".toList

/-- The settings that variables state.  An empty root is none. -/
def ofVariables (value? : Text → Option Text) : Settings where
  stylesheetRoot := (value? rootVariable).filter (!·.isEmpty)
  sharesSelectors :=
    match value? sharingVariable with
    | some value => Text.trim value != ['0']
    | none => true

/-- Whether a path begins at the top. -/
def isAbsolute (path : Text) : Bool := path.head? = some '/'

/-- The path below a directory.  A slash goes between, unless the directory is empty or
ends in one. -/
def join (directory path : Text) : Text :=
  if directory.isEmpty || directory.getLast? = some '/' then directory ++ path
  else directory ++ '/' :: path

/-- The path of a stylesheet: below the root, if there is one and the identifier does not
begin at the top. -/
def resolve (settings : Settings) (identifier : Text) : Text :=
  match settings.stylesheetRoot with
  | some root => if isAbsolute identifier then identifier else join root identifier
  | none => identifier

/-- Without variables the settings are the default. -/
@[simp] theorem ofVariables_none : ofVariables (fun _ => none) = default := rfl

end Settings

end StyleInline
