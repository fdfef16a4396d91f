import ExprDisplay.Command.Run

/-!
The program: reads the files that the arguments may name and prints what the command
gives.
-/
namespace ExprDisplay.Command

/-- The text of a file, if it can be read. -/
def readText? (name : String) : IO (Option String) := do
  try
    return some (← IO.FS.readFile name)
  catch _ => return none

/-- The texts of the files that a command line may need. -/
def readFiles (args : List String) : IO (List (String × String)) := do
  let names := match parse? args with
    | some (.showSample o) => (o.config.map Loader.candidates).getD []
    | _ => []
  let texts ← names.mapM fun name => do
    return (← readText? name).map fun text => (name, text)
  return texts.filterMap id

end ExprDisplay.Command

def main (args : List String) : IO UInt32 := do
  let files ← ExprDisplay.Command.readFiles args
  match ExprDisplay.Command.run (fun name => files.lookup name) args with
  | .ok text =>
    IO.print text
    return 0
  | .error e =>
    IO.eprintln e.message
    return e.exitCode.toUInt32
