import GraphLift.CommandLine.Run
import GraphLift.Report.Stateful

/-! # Commands, step by step

    A command can also be carried out step by step on a machine, whose files and output change as it goes along. Such a run
    leaves something behind even if it fails.

    * **Consulting** reads the files that are there at the moment.
    * **Changing** the files takes two steps: the directory is made first, and the file is written then.
    * **The text** of a command is complete before anything is changed or printed.
    * **Serializers** may be any: a graph with its namespaces has a text in a format, or it cannot be written in it.
-/

namespace GraphLift

/-- What a command acts on. -/
structure Machine where
  files : Files
  records : List Record := []
  /-- The text on standard output. -/
  printed : String := ""

/-- A run on a machine. -/
abbrev Session := Stateful Machine

/-- Writes a graph in the format with a given name. -/
abbrev Serializer := String → Graph → Namespaces → Except Failure String

variable [Library]

namespace Session

variable {α : Type}

/-- Runs something on the files that are there, and keeps its reports. -/
def consult (x : Files → Traced α) : Session α := fun s =>
  match (x s.files).outcome with
  | .ok a => .ok a { s with records := s.records ++ (x s.files).records }
  | .error e => .error e { s with records := s.records ++ (x s.files).records }

/-- Changes the files. -/
def change (f : Files → Except Failure Files) : Session Unit := fun s =>
  match f s.files with
  | .ok files => .ok () { s with files }
  | .error e => .error e s

/-- Prints a text on standard output. -/
def print (text : String) : Session Unit := fun s => .ok () { s with printed := s.printed ++ text }

/-! ## Texts -/

/-- The document of an export. -/
def composeExport (serialize : Serializer) (env : Environment) (r : ExportRequest) : Session Document := do
  let (root, base) ← consult fun fs => fs.loadRoot env r.encoding r.config
  if !root.formats.isAvailable r.format then throw (.config (.formatDisabled r.format))
  let document ← consult fun fs => Traced.lift (fs.readJson r.encoding (Location.parse r.document))
  let g ← consult fun fs => Export.build root (fs.loadElements r.encoding base root) document
  return ⟨g.1, ← consult fun _ => Traced.lift (serialize r.format g.1 g.2)⟩

/-- The document of a map run. -/
def composeMap (serialize : Serializer) (r : MapRequest) : Session Document := do
  let prefixes ← consult fun fs => Traced.lift (fs.loadPrefixes r.encoding r.prefixes)
  let t ← consult fun fs => fs.loadTemplate r.encoding (Location.parse r.template) .null
  let table ← consult fun _ => Traced.lift (PrefixTable.ofJson prefixes)
  let m ← consult fun _ => Traced.lift (Mapper.ofTemplate t table)
  let document ← consult fun fs => Traced.lift (fs.readJson r.encoding (Location.parse r.document))
  let g ← consult fun _ => m.build document
  return ⟨g.1, ← consult fun _ => Traced.lift (serialize r.format g.1 g.2)⟩

end Session

namespace CommandLine

/-- The file that a command is to write, if any. -/
def Command.out : Command → Option String
  | .exporting r => r.out
  | .mapping r => r.out

/-- The same command with another file to write, or none. -/
def Command.withOut (out : Option String) : Command → Command
  | .exporting r => .exporting { r with out }
  | .mapping r => .mapping { r with out }

/-- The name of the format that a command writes. -/
def Command.format : Command → String
  | .exporting r => r.format
  | .mapping r => r.format

end CommandLine

namespace Session

open CommandLine

/-- The document of a command, whose text is complete. -/
def compose (serialize : Serializer) (env : Environment) : Command → Session Document
  | .exporting r => composeExport serialize env r
  | .mapping r => composeMap serialize r

/-! ## Commands -/

/-- Gives a text back, or saves it and gives the name of the file back. -/
def deliver (out : Option String) (format : String) (d : Document) : Session String :=
  match out with
  | none => return d.text
  | some name => do
    let l := Location.parse name
    change fun fs => fs.makeRoom l
    change fun fs => fs.fill l d.text
    consult fun _ => Traced.report (.written d.graph.size format l.text)
    return l.text

/-- Carries a command out. -/
def perform (serialize : Serializer) (env : Environment) (c : Command) : Session String := do
  deliver c.out c.format (← compose serialize env c)

/-- Carries a command out and prints what it gives back, unless it was saved. The result is the exit code; a failure that
    is a fault of the input has one, and any other is passed on. -/
def main (serialize : Serializer) (env : Environment) (c : Command) : Session Nat := do
  let result ← tryCatch (some <$> perform serialize env c) fun e => if isReported e then return none else throw e
  match result with
  | none => return 1
  | some text => do
    if c.out.isNone then print text
    return 0

end Session

end GraphLift
