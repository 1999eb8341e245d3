import EntityQuery.Command

/-!
# The program

Reads standard input when the command wants a query file, runs the command line and prints
what it yields.
-/

/-- All of a stream's remaining lines. -/
partial def readRest (stream : IO.FS.Stream) (acc : String) : IO String := do
  let line ← stream.getLine
  if line.isEmpty then return acc else readRest stream (acc ++ line)

def main (args : List String) : IO UInt32 := do
  let input ← if EntityQuery.Command.readsInput args then readRest (← IO.getStdin) "" else pure ""
  let outcome := EntityQuery.Command.run args input
  IO.print outcome.out
  IO.eprint outcome.err
  return outcome.status
