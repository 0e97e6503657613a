import GraphLift.CommandLine.Arguments
import GraphLift.Export.Run

/-! # Commands

    There are two commands, `export` for a document with a root configuration and `map` for a document with a
    single template. Options before the command set how much is reported.
-/

namespace GraphLift

namespace CommandLine

/-- What is asked for. -/
inductive Command where
  | exporting (request : ExportRequest)
  | mapping (request : MapRequest)

/-- What is asked for, and how much is to be reported. -/
structure Options where
  verbose : Bool
  quiet : Bool
  command : Command

/-- The least severity that is reported. Asking for quiet wins. -/
def Options.threshold (o : Options) : Severity :=
  if o.quiet then .warning else if o.verbose then .debug else .info

/-- The options that every command has. -/
def helpOptions : List (String × Effect) :=
  [("-h", .help), ("--help", .help)]

/-- The options before the command. -/
def mainGrammar : Grammar where
  options := helpOptions ++
    [("--verbose", .flag "verbose"), ("-v", .flag "verbose"), ("--quiet", .flag "quiet"), ("-q", .flag "quiet")]

/-- The options of both commands. -/
def outputOptions : List (String × Effect) :=
  [("--format", .value "format" (Format.all.map (·.1))), ("--out", .value "out" []), ("-o", .value "out" []),
    ("--json-encoding", .value "encoding" [])]

/-- The arguments of an export. -/
def exportGrammar : Grammar where
  options := helpOptions ++ ("--config", .value "config" []) :: outputOptions
  positionals := ["document"]

/-- The arguments of a map run. -/
def mapGrammar : Grammar where
  options := helpOptions ++ ("--prefixes", .value "prefixes" []) :: outputOptions
  positionals := ["document", "mapping"]

/-- The export that is asked for. -/
def exportRequest (p : Parsed) : ExportRequest where
  document := (p.value? "document").getD ""
  config := p.value? "config"
  out := p.value? "out"
  format := (p.value? "format").getD "turtle"
  encoding := (p.value? "encoding").getD "utf-8"

/-- The map run that is asked for. -/
def mapRequest (p : Parsed) : MapRequest where
  document := (p.value? "document").getD ""
  template := (p.value? "mapping").getD ""
  out := p.value? "out"
  prefixes := p.value? "prefixes"
  format := (p.value? "format").getD "turtle"
  encoding := (p.value? "encoding").getD "utf-8"

/-- Reads the arguments of a command. -/
def readCommand (word : String) (arguments : List String) : Except Stop (Parsed × Command) := do
  if word = "export" then
    let p ← exportGrammar.parse arguments
    return (p, .exporting (exportRequest p))
  else if word = "map" then
    let p ← mapGrammar.parse arguments
    return (p, .mapping (mapRequest p))
  else throw .usage

/-- Reads a command line. Arguments that are left over, before or behind the command, make it unusable. -/
def Options.parse (arguments : List String) : Except Stop Options := do
  let (p, word, rest) ← mainGrammar.parseCommand arguments
  let (q, command) ← readCommand word rest
  if p.leftover || q.leftover then throw .usage
  return ⟨p.flags.contains "verbose", p.flags.contains "quiet", command⟩

end CommandLine

end GraphLift
