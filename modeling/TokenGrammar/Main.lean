import TokenGrammar.CommandLine

/-!
# The program

Reads the files that the command line names, and prints what `Invocation.run` gives.
-/

namespace TokenGrammar

/-- What is said about a file that cannot be read. -/
def unreadableReason : IO.Error → String
  | .noFileOrDirectory .. => "No such file or directory (os error 2)"
  | e => toString e

/-- The text of a file, or why there is none. -/
def readText (path : String) : IO (Except String String) := do
  try return .ok (← IO.FS.readFile path)
  catch e => return .error (unreadableReason e)

/-- The usage of the program. -/
def usage : String :=
  "usage: --grammar FILE [--config FILE] [--prefix-chars CHARS] [--ignore-case] [--lenient] " ++
    "[--unknown-dest NAME]... [-- TOKEN...]"

end TokenGrammar

open TokenGrammar

/-- Runs the program: nothing but an error message is printed when it fails. -/
def main (arguments : List String) : IO UInt32 := do
  match Invocation.ofArguments? arguments with
  | none =>
    IO.eprintln usage
    return 2
  | some i =>
    let texts ← i.paths.mapM fun path => return (path, ← readText path)
    match i.run fun path => (texts.lookup path).getD (.error "") with
    | .ok text =>
      IO.print text
      return 0
    | .error e =>
      IO.eprintln ("Error: " ++ String.ofList e.message)
      return 1
