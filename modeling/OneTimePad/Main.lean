import OneTimePad.Command.Arguments

/-!
# The program

Reads the file that the command line names, and prints the answer.
-/

namespace OneTimePad

/-- The content of a file. -/
def readContent (path : String) : IO FileContent := do
  try
    return .ok (← IO.FS.readBinFile path).toList
  catch error =>
    return .error error.toString

end OneTimePad

open OneTimePad in
/-- Answer a command line. -/
def main (args : List String) : IO UInt32 := do
  let request := Arguments.parse args
  let file ←
    match request with
    | .run invocation => readContent invocation.path
    | _ => pure (.error "")
  match Arguments.respond request file with
  | .ok answer => do
      (← IO.getStdout).putStr answer.output
      (← IO.getStderr).putStr answer.complaint
      return answer.exit
  | .error fault => do
      (← IO.getStderr).putStrLn fault.message
      return 101
