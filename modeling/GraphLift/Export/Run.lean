import GraphLift.Export.Build
import GraphLift.Export.Reader
import GraphLift.Files.Tree
import GraphLift.Template.Reader

/-! # Runs on files

    A run reads its input from a tree of files, builds a graph and writes it in a format.

    * **Export**: a document with a root configuration, whose format must be available. The configuration is
      read before the document.
    * **Map**: a document with a single template and perhaps a file of prefixes.
    * **Delivery**: the text is given back, or saved in a file, whose name is given back then.

    Nothing is written before the whole text is there.
-/

namespace GraphLift

/-- What a run finds besides its files. -/
structure Environment where
  /-- The variable that names a root configuration. -/
  variableName : String
  variableValue : Option String := none
  /-- Home directories by the names of those whose they are; the empty name is that of who runs it all. -/
  homes : List (String × Location) := []

/-- What an export is asked to do. -/
structure ExportRequest where
  document : String
  config : Option String := none
  out : Option String := none
  format : String := "turtle"
  encoding : String := "utf-8"

/-- What a map run is asked to do. -/
structure MapRequest where
  document : String
  template : String
  out : Option String := none
  prefixes : Option String := none
  format : String := "turtle"
  encoding : String := "utf-8"

/-- A graph with its namespaces and its text. -/
structure Document where
  graph : Graph
  text : String

/-- What a run gives back: its document, the file it was saved in, and the tree of files afterwards. -/
structure Product where
  document : Document
  saved : Option Location
  files : Files

/-- The text or the name of the file. -/
def Product.returned (p : Product) : String :=
  match p.saved with
  | none => p.document.text
  | some l => l.text

variable [Library]

namespace Files

/-! ## Templates and configurations -/

/-- The members of the object in a configuration file. -/
def readMembers (fs : Files) (encoding : String) (l : Location) : Except Failure (List (String × Json)) :=
  match fs.readJson encoding l with
  | .ok (.object members) => .ok members
  | .ok _ => .error (.config (.topLevel l.text))
  | .error (.file ⟨.missing, _⟩) => .error (.config (.fileMissing l.text))
  | .error (.json e) => .error (.config (.badJson l.text e))
  | .error e => .error e

/-- The template in a file. -/
def loadTemplate (fs : Files) (encoding : String) (l : Location) (outside : Json) : Traced ResourceTemplate := do
  Template.read (← Traced.lift (fs.readMembers encoding l)) outside

/-- The name of the root configuration: the one asked for, or the one in the environment. -/
def configName (env : Environment) (config : Option String) : Except Failure String :=
  match config with
  | some c => .ok c
  | none =>
    let named := Text.trim (env.variableValue.getD "")
    if named = "" then .error (.config (.noVariable env.variableName)) else .ok named

/-- The location with the home directory for a tilde. -/
def expandHome (env : Environment) (l : Location) : Except Failure Location :=
  match l.tilde? with
  | none => .ok l
  | some (name, rest) =>
    match env.homes.find? (·.1 == name) with
    | some (_, h) => .ok ⟨h.root, h.parts ++ rest⟩
    | none => .error (if name.toList.contains '\x00' then .value .nullInName else .noHome name)

/-- A root configuration and the directory it is in. -/
def loadRoot (fs : Files) (env : Environment) (encoding : String) (config : Option String) :
    Traced (RootConfig × Location) := do
  let l ← Traced.lift (expandHome env (Location.parse (← Traced.lift (configName env config))))
  let root ← RootConfig.read (← Traced.lift (fs.readMembers encoding l))
  return (root, (fs.resolve l).parent)

/-- The elements with their templates, whose files are seen from a directory. -/
def loadElements (fs : Files) (encoding : String) (base : Location) (root : RootConfig) :
    Traced (List (Element × ResourceTemplate)) :=
  root.elements.mapM fun e => do
    return (e, ← fs.loadTemplate encoding (base.join (Location.parse e.file)) e.typeRef)

/-! ## Runs -/

/-- The document of a graph in a format. -/
def compose (format : String) (g : Graph × Namespaces) : Except Failure Document := do
  return ⟨g.1, ← Format.serialize format g.1 g.2⟩

/-- The document of an export. -/
def composeExport (fs : Files) (env : Environment) (r : ExportRequest) : Traced Document := do
  let (root, base) ← fs.loadRoot env r.encoding r.config
  if !root.formats.isAvailable r.format then throw (.config (.formatDisabled r.format))
  let document ← Traced.lift (fs.readJson r.encoding (Location.parse r.document))
  let g ← Export.build root (fs.loadElements r.encoding base root) document
  Traced.lift (compose r.format g)

/-- The prefix table in a file, or none. -/
def loadPrefixes (fs : Files) (encoding : String) (name : Option String) : Except Failure Json :=
  match name with
  | none | some "" => .ok .null
  | some s => fs.readJson encoding (Location.parse s)

/-- The document of a map run. -/
def composeMap (fs : Files) (r : MapRequest) : Traced Document := do
  let prefixes ← Traced.lift (fs.loadPrefixes r.encoding r.prefixes)
  let t ← fs.loadTemplate r.encoding (Location.parse r.template) .null
  let table ← Traced.lift (PrefixTable.ofJson prefixes)
  let m ← Traced.lift (Mapper.ofTemplate t table)
  let document ← Traced.lift (fs.readJson r.encoding (Location.parse r.document))
  let g ← m.build document
  Traced.lift (compose r.format g)

/-- Saves a document, if a file is named for it. -/
def deliver (fs : Files) (out : Option String) (format : String) (d : Document) : Traced Product :=
  match out with
  | none => pure ⟨d, none, fs⟩
  | some name => do
    let l := Location.parse name
    let after ← Traced.lift (fs.save l d.text)
    Traced.report (.written d.graph.size format l.text)
    return ⟨d, some l, after⟩

/-- Runs an export. -/
def runExport (fs : Files) (env : Environment) (r : ExportRequest) : Traced Product := do
  fs.deliver r.out r.format (← fs.composeExport env r)

/-- Runs a map run. -/
def runMap (fs : Files) (r : MapRequest) : Traced Product := do
  fs.deliver r.out r.format (← fs.composeMap r)

end Files

end GraphLift
