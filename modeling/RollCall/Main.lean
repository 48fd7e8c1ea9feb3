import RollCall.Program

/-!
# Command line

`inspect` looks into the index; any other word, or none, keeps it. Settings are variables of the
environment, and those of the file `.env`. No network and no database is linked in.
-/

set_option autoImplicit false

namespace RollCall

/-- The program that the command line names, and its arguments. -/
def Program.ofCommandLine : List String → Program × List String
  | "inspect" :: arguments => (.inspect, arguments)
  | _ => (.index, [])

/-- How many rounds indexing may take. -/
def roundsInAll : Nat := 1000000000

/-- Runs the program that the command line names, and answers its exit code. -/
def runCommandLine (words : List String) : IO UInt32 := do
  let environment ← Settings.variableNames.filterMapM fun name =>
    return (← IO.getEnv name).map (name, ·)
  let file ← try some <$> IO.FS.readFile ".env" catch _ => pure none
  let (program, arguments) := Program.ofCommandLine words
  let exit := program.run Outside.unreachable () () environment file arguments roundsInAll
  for line in exit.log do
    IO.println (Json.print line.written)
  IO.print exit.output
  IO.eprint exit.errors
  return exit.code.toUInt32

end RollCall

def main (words : List String) : IO UInt32 :=
  RollCall.runCommandLine words
