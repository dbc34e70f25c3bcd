import Substitution.CommandLine.Run

/-!
# The program

Reads the files and the input that the arguments ask for, runs, and prints the outcome.
-/

namespace Substitution

namespace CommandLine

/-- The bytes of a file on disk. -/
def readFile (path : Text) : IO (Except FileError (List UInt8)) := do
  if path.contains (Char.ofNat 0) then return .error .badPath
  try return .ok (← IO.FS.readBinFile (String.ofList path)).toList
  catch
    | .noFileOrDirectory .. => return .error (.notFound path)
    | .inappropriateType _ code _ =>
      return .error (if code = 20 then .notDirectory path else .isDirectory path)
    | e => throw e

/-- The files that a command reads. -/
def pathsOf : Command → List Text
  | .substitute _ _ options _ _ input => options.toList ++ ofInput input
  | .apply rules _ input => rules :: ofInput input
  | .check _ => []
  | .demo => []
where
  /-- The file of an input. -/
  ofInput : Input → List Text
    | .standard => []
    | .file path => [path]

/-- Does a command read the standard input? -/
def readsStandard : Command → Bool
  | .substitute _ _ _ _ _ input => input == .standard
  | .apply _ _ input => input == .standard
  | _ => false

/-- Runs the program and gives its exit status. -/
def runOnDisk (args : List String) : IO UInt32 := do
  let args := args.map String.toList
  let mut contents := []
  let mut standard := []
  if let .ok i := Invocation.read args then
    contents ← (pathsOf i.command).mapM fun path => do return (path, ← readFile path)
    if readsStandard i.command then
      standard := (← (← IO.getStdin).readBinToEnd).toList
  let known := contents
  let files : Files := {
    content := fun path => (known.lookup path).getD (.error (.notFound path))
    explanation := fun _ => "it breaks the rules of the format".toList
    origin := fun _ => { place := program } }
  let o := run demoCases files standard args
  IO.print (String.ofList o.output)
  for line in o.errorLines do
    IO.eprintln (String.ofList line)
  match o.ending, o.ending.status? with
  | .abrupt e, _ =>
    IO.eprintln (String.ofList e.message)
    return 1
  | _, status => return (status.getD 1).toUInt32

end CommandLine

end Substitution

/-- The program. -/
def main (args : List String) : IO UInt32 :=
  Substitution.CommandLine.runOnDisk args
