import Pathwise.CommandLine.Run

/-!
# The program

Reads the command line, the environment and the current directory, and writes the outcome. The host
is taken to be a POSIX system, and the terminal to be a simple one on which each character takes one
column.
-/

namespace Pathwise

private def readEnvironment (names : List String) : IO Environment := do
  let mut entries := []
  for name in names do
    if let some value ← IO.getEnv name then
      entries := entries ++ [(name.toList, value.toList)]
  return ⟨.posix, entries⟩

private def writeText (stream : IO.FS.Stream) (text : Text) : IO Unit := do
  stream.putStr (String.ofList text)
  stream.flush

end Pathwise

open Pathwise in
def main (arguments : List String) : IO UInt32 := do
  let names := [Config.styleVariable, Config.levelVariable].map String.ofList
  let environment ← readEnvironment names
  let directory := (← IO.currentDir).toString.toList
  let terminal := Terminal.simple none fun _ => 1
  let outcome := CommandLine.run terminal environment (.constant directory)
    (arguments.map String.toList)
  match outcome with
  | .finished status output errors =>
    writeText (← IO.getStdout) output
    writeText (← IO.getStderr) errors
    return status.toUInt32
  | .usageError =>
    (← IO.getStderr).putStrLn "Usage: crosspath [OPTIONS] COMMAND [ARGS]..."
    return 2
  | .unknownStyle error =>
    writeText (← IO.getStderr) (Text.line error.message)
    return 1
  | .noDirectory =>
    writeText (← IO.getStderr) (Text.line CallError.noDirectory.message)
    return 1
