import StyleInline.CommandLine
import StyleInline.Program.Html.Reader

/-!
# The program

Collects the surroundings of the program — arguments, environment, the files that it may
read and standard input — and hands them to `CommandLine.run`, together with a reader of
pages.
-/

namespace StyleInline

/-- The bytes of a file, or why there are none. -/
def readFileBytes (path : Text) : IO (Except ReadError ByteArray) := do
  try
    return .ok (← IO.FS.readBinFile (String.ofList path))
  catch
    | .noFileOrDirectory .. => return .error .notFound
    | .inappropriateType .. => return .error .isADirectory
    | _ => return .error .refused

/-- The bytes of standard input. -/
def readInputBytes : IO ByteArray := do
  (← IO.getStdin).readBinToEnd

/-- The variables of the environment that the program looks at. -/
def readVariables : IO (List (Text × Text)) := do
  let names := [Settings.rootVariable, Settings.sharingVariable]
  names.filterMapM fun name => do
    return (← IO.getEnv (String.ofList name)).map fun value => (name, value.toList)

end StyleInline

open StyleInline in
/-- Runs the program. -/
def main (arguments : List String) : IO UInt32 := do
  let arguments := arguments.map String.toList
  let stated ← readVariables
  let value? (name : Text) : Option Text := stated.lookup name
  let paths := match arguments with
    | [] => []
    | stylesheet :: rest => (Settings.ofVariables value?).resolve stylesheet :: rest.take 1
  let contents ← paths.mapM fun path => do return (path, ← readFileBytes path)
  let files : Files := fun path => (contents.lookup path).getD (.error .notFound)
  let input ← if arguments.length = 1 then readInputBytes else pure ByteArray.empty
  let answer := CommandLine.run Markup.ofText files value? input arguments
  IO.print (String.ofList answer.output)
  IO.eprint (String.ofList answer.errors)
  return UInt32.ofNat answer.code
