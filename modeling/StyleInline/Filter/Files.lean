import StyleInline.Text.Basic

/-!
# Files

What can be read at one moment: a map from paths to bytes, or to the reason why there
are none.  Everything that reads files takes such a map, so that a change to the files
between two steps is a change of the map.

## Main definitions

* `ReadError` — why a file cannot be read.
* `Files` — the map.
* `Files.readText` — the text of a file.
-/

namespace StyleInline

/-- Why a file cannot be read. -/
inductive ReadError where
  /-- Nothing lies there. -/
  | notFound
  /-- A name on the way is not that of a directory. -/
  | notADirectory
  /-- A directory lies there. -/
  | isADirectory
  /-- The path cannot name anything. -/
  | invalidPath
  /-- What lies there is not text. -/
  | notText
  /-- The system refuses for another reason. -/
  | refused
deriving Repr, DecidableEq

/-- The wording of an error. -/
def ReadError.message : ReadError → Text
  | notFound => "io: NotFound".toList
  | notADirectory => "io: NotADirectory".toList
  | isADirectory => "io: IsADirectory".toList
  | invalidPath => "io: InvalidInput".toList
  | notText => "io: InvalidData".toList
  | refused => "io: Other".toList

/-- What reading each path yields. -/
abbrev Files := Text → Except ReadError ByteArray

namespace Files

/-- Nothing can be read. -/
def absent : Files := fun _ => .error .notFound

/-- The text that bytes spell in UTF-8. -/
def decode (bytes : ByteArray) : Except ReadError Text :=
  match String.fromUTF8? bytes with
  | some s => .ok s.toList
  | none => .error .notText

/-- The text of a file. -/
def readText (files : Files) (path : Text) : Except ReadError Text :=
  match files path with
  | .error e => .error e
  | .ok bytes => decode bytes

end Files

end StyleInline
