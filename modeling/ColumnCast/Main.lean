import ColumnCast.Command.Run

/-!
# The program

`main` reads the file that a request names, runs the request and writes what comes of it.
-/

namespace ColumnCast

/-- Reads a file. -/
def readFile (path : String) : IO (Except FileError String) := do
  try
    return .ok (← IO.FS.readFile path)
  catch
    | .noFileOrDirectory _ _ _ => return .error .missing
    | .inappropriateType _ _ _ => return .error .isDirectory
    | e => return .error (.other (toString e))

/-- Reads the file that a request needs. -/
def readNeeded : Request → IO (Except FileError String)
  | .check schema _ _ => readFile schema
  | _ => return .error .missing

end ColumnCast

open ColumnCast

/-- Runs the program. -/
def main (arguments : List String) : IO UInt32 := do
  match Request.parse arguments with
  | none =>
    IO.eprint Command.usage
    return 2
  | some request =>
    let file ← readNeeded request
    let result := RunResult.ofReport (← IO.getEnv "RUST_LOG") (request.run fun _ => file)
    for line in result.log do
      IO.eprintln line.text
    IO.print result.output
    IO.eprint result.errors
    return UInt32.ofNat result.exitCode
