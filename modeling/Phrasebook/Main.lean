import Phrasebook.CommandLine

/-! The program. -/
open Phrasebook

/-- The content of a file, if it can be read. -/
def readContent (file : String) : IO (Option String) :=
  try some <$> IO.FS.readFile file
  catch _ => pure none

def main (args : List String) : IO UInt32 := do
  let files := match Command.ofArguments args with
    | .ok c => c.files
    | .error _ => []
  let program := (← IO.appPath).fileName.getD ""
  let contents ← files.mapM fun file => return (file, ← readContent file)
  let outcome := runArguments program (fun file => (contents.lookup file).join) args
  IO.print outcome.stdout
  IO.eprint outcome.stderr
  return outcome.code.toUInt32
