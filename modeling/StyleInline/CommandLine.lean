import StyleInline.Filter.Pool

/-!
# The command line

The program takes the path of a stylesheet and, if it likes, the path of a page, which
otherwise comes from standard input.  It writes the styled page.

## Main definitions

* `CommandLine.Answer` — what the program leaves behind.
* `CommandLine.run` — the program, given its surroundings.
-/

namespace StyleInline.CommandLine

/-- Why the program stops. -/
inductive Failure where
  /-- No stylesheet is named. -/
  | usage
  /-- The page cannot be read from the file. -/
  | unreadable (path : Text) (cause : ReadError)
  /-- Standard input does not hold text. -/
  | unreadableInput (cause : ReadError)
  /-- The page cannot be filtered. -/
  | filter (cause : FilterError)
deriving Repr, DecidableEq

/-- The wording of a failure and its causes, outermost first. -/
def Failure.chain : Failure → List Text
  | usage => ["usage: cssinline <stylesheet.css> [input.html]".toList]
  | unreadable path cause => ["Failed to read ".toList ++ path, cause.message]
  | unreadableInput cause => ["Failed to read HTML from stdin".toList, cause.message]
  | filter cause => cause.chain

/-- What the program leaves behind. -/
structure Answer where
  code : Nat
  output : Text
  errors : Text
deriving Repr, DecidableEq

/-- The page to be styled. -/
def readPage (files : Files) (input : ByteArray) : Option Text → Except Failure Text
  | some path => (files.readText path).mapError (.unreadable path)
  | none => (Files.decode input).mapError .unreadableInput

/-- The styled page. -/
def styledPage (read : PageReader) (files : Files) (value? : Text → Option Text)
    (input : ByteArray) : List Text → Except Failure Text
  | [] => .error .usage
  | stylesheet :: rest =>
    match readPage files input rest.head? with
    | .error e => .error e
    | .ok page =>
      let pool := FilterPool.ofSettings (Settings.ofVariables value?)
      (pool.restyle read files stylesheet page).1.mapError .filter

/-- The lines that report a failure: what happened, and each cause on a line. -/
def report (chain : List Text) : Text :=
  match chain with
  | [] => []
  | outermost :: causes =>
    "Error: ".toList ++ outermost ++ '\n' ::
      (if causes.isEmpty then []
        else "\nCaused by:\n".toList ++ causes.flatMap fun c => "    ".toList ++ c ++ ['\n'])

/-- The program: `read` reads pages, `files` is what can be read, `value?` the environment,
`input` standard input. -/
def run (read : PageReader) (files : Files) (value? : Text → Option Text) (input : ByteArray)
    (arguments : List Text) : Answer :=
  match styledPage read files value? input arguments with
  | .ok page => ⟨0, page ++ ['\n'], []⟩
  | .error failure => ⟨1, [], report failure.chain⟩

end StyleInline.CommandLine
