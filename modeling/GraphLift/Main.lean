import GraphLift.CommandLine.Run

/-! # The program

    `main` runs a command line on the files of the machine. The run itself is a function on a tree of files, so
    it is started with no files, and every file that it misses is read and added before it is started again.
-/

namespace GraphLift

namespace Program

/-- How the program is called. -/
def usage : String :=
  "usage: graphlift [-h] [--verbose] [--quiet] export [--config FILE] [--format FORMAT] [--out FILE]\n"
    ++ "                 [--json-encoding NAME] document\n"
    ++ "       graphlift [-h] [--verbose] [--quiet] map [--prefixes FILE] [--format FORMAT] [--out FILE]\n"
    ++ "                 [--json-encoding NAME] document mapping\n"

/-- What the machine has at a location, if anything. -/
def probe (l : Location) : IO (Option Content) := do
  try
    return some (.file (← IO.FS.readBinFile l.text).toList)
  catch
    | .inappropriateType .. => return some .directory
    | _ => return none

/-- The file that a run missed. -/
def missed? : CommandLine.Ending → Option Location
  | .failed (.file ⟨.missing, path⟩) => some (.parse path)
  | .failed (.config (.fileMissing path)) => some (.parse path)
  | _ => none

/-- Runs until no file is missed that the machine has. -/
partial def runOnMachine (env : Environment) (fs : Files) (arguments : List String) : IO CommandLine.Outcome := do
  let outcome := CommandLine.run env fs arguments
  match missed? outcome.ending with
  | none => return outcome
  | some l =>
    match ← probe l with
    | none => return outcome
    | some content =>
      let place := (fs.resolve l).parts
      if fs.entries.any (·.1 == place) then return outcome
      else runOnMachine env (fs.put place content) arguments

/-- Writes a text to a file of the machine, making its directory. -/
def save (l : Location) (text : String) : IO Unit := do
  IO.FS.createDirAll l.parent.text
  IO.FS.writeFile l.text text

/-- Reports a failure on standard error. -/
def complain (message : String) : IO Unit :=
  IO.eprintln ("ERROR - " ++ message)

/-- Brings an outcome to the machine; the result is the exit code. -/
def finish (outcome : CommandLine.Outcome) : IO UInt32 := do
  for r in outcome.records do
    IO.eprintln (r.event.origin.name ++ " - " ++ r.event.severity.name ++ " - " ++ r.event.message)
  match outcome.ending with
  | .stopped .help => do
    IO.print usage
    return 0
  | .stopped .usage => do
    IO.eprint usage
    return 2
  | .failed why | .brokenOff why => do
    complain why.message
    return 1
  | .finished p =>
    match p.saved with
    | none => do
      IO.print p.document.text
      return 0
    | some l =>
      try
        save l p.document.text
        return 0
      catch e => do
        complain e.toString
        return 1

end Program

end GraphLift

open GraphLift in
/-- Runs the command line of the program. -/
def main (arguments : List String) : IO UInt32 := do
  let here := Location.parse ((← IO.getEnv "PWD").getD "/")
  let env : Environment := {
    variableName := "GRAPHLIFT_CONFIG"
    variableValue := ← IO.getEnv "GRAPHLIFT_CONFIG"
    homes := ((← IO.getEnv "HOME").map fun h => ("", .parse h)).toList }
  Program.finish (← Program.runOnMachine env ⟨here.parts, []⟩ arguments)
