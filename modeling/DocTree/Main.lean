/-
The program.

Arguments are interpreted first; then the files that the job names are read, and the
job is carried out on what they hold.
-/
import DocTree.CommandLine.Command

namespace DocTree.CommandLine

/-- The usage text. -/
def usageText : Text :=
  linesText
    ["Usage: hactdoc [-V] tree|index|dump FILES... [-c ROOT]".toList,
     "       hactdoc [-V] show FILES... -e ENTITY [-c ROOT]".toList,
     "       hactdoc --version | --help".toList]

/-- What stands under a path of the file system. -/
def readPath (p : Path) : IO Contents := do
  try
    return .file (← IO.FS.readBinFile (String.ofList p.render)).toList
  catch e =>
    match e with
    | .inappropriateType _ code _ => return if code == 21 then .directory else .missing
    | .invalidArgument _ code _ =>
      -- depending on the call that failed the code is given with either sign
      return if code == 36 || 0 - code == 36 then .tooLong else .missing
    | _ => return .missing

/-- Carries out a job on the files of the file system. -/
def executeJob (job : Job) : IO Response := do
  let cwd := (Path.ofText (toString (← IO.currentDir)).toList).names
  let known ← (job.paths cwd).mapM fun p => return (p, ← readPath p)
  return execute ⟨cwd, fun p => (known.lookup p).getD .missing⟩ job

/-- Prints an answer and gives its exit code. -/
def respond : Response → IO UInt32
  | .usage exit => do
    IO.print (String.ofList usageText)
    return exit.toUInt32
  | .output exit stdout stderr => do
    IO.print (String.ofList stdout)
    IO.eprint (String.ofList stderr)
    return exit.toUInt32

end DocTree.CommandLine

def main (args : List String) : IO UInt32 := do
  match DocTree.CommandLine.interpret (args.map String.toList) with
  | .error r => DocTree.CommandLine.respond r
  | .ok job => do DocTree.CommandLine.respond (← DocTree.CommandLine.executeJob job)
