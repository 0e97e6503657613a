import GraphLift.Json.Parser
import GraphLift.Json.Display
import GraphLift.Text.Codec

/-! # Failures

    Why a run ends without a result. Every cause is a constructor; the wording is one function per family.

    * **Configuration**: a mapping file or root configuration that cannot be used.
    * **Mapping**: a fault in the structure of a template, a path or the document as a whole.
    * **Value**: a value that its use does not admit.
    * **Shape**: a value of the wrong kind at a place that is not checked beforehand; these have no wording.
    * **File**, **decoding** and **JSON** failures belong to the files of a run.
-/

namespace GraphLift

/-- The names of a chain of references, with arrows between them. -/
def chainText (chain : List String) : String :=
  " -> ".intercalate chain

/-- A mapping file or root configuration that cannot be used. -/
inductive ConfigError where
  /-- No configuration is named, and the variable that could name one is unset or blank. -/
  | noVariable (name : String)
  | fileMissing (path : String)
  | badJson (path : String) (error : Json.ParseError)
  /-- The value of a whole file is no object. -/
  | topLevel (path : String)
  /-- A member that must be a text is of another kind. -/
  | notText (place member kind : String)
  /-- A value that must be an object is none. -/
  | notObject (place : String)
  | noPredicate (place : String)
  /-- A property asks for an unknown kind of value. -/
  | badValueKind (place : String) (given : Json)
  /-- A node template is of an unknown kind. -/
  | badNodeKind (place : String) (given : Json)
  | noNode (place : String)
  | badPaths (place : String)
  | cyclic (chain : List String)
  | elementIncomplete (index : Nat)
  | elementsClash
  | relationIncomplete (index : Nat)
  /-- An end of a relation is no element. -/
  | relationUnknown (index : Nat) (side : String) (given : Json)
  | formatDisabled (format : String)

/-- The wording of a refusal of a cycle. -/
def cycleText (chain : List String) : String :=
  "Node templates reference each other in a cycle: " ++ chainText chain

/-- The wording of a configuration error. -/
def ConfigError.message : ConfigError → String
  | noVariable name =>
    s!"Environment variable '{name}' not set; please provide a path to the root mapping config"
  | fileMissing path => s!"Mapping file not found: {path}"
  | badJson path error => s!"Invalid JSON in {path}: {error.message}"
  | topLevel path => s!"Expected a JSON object at top level of {path}"
  | notText place member kind => s!"{place}.{member} must be a string, got {kind}"
  | notObject place => s!"{place} must be an object"
  | noPredicate place => s!"{place} has no predicate"
  | badValueKind place given => s!"{place}.as must be one of literal, iri, node-ref; got {given.display}"
  | badNodeKind place given => s!"{place}.kind must be 'bnode' or 'iri'; got {given.display}"
  | noNode place => s!"{place} is a node-ref without 'node'"
  | badPaths place => s!"{place}.jsonPaths must be a list of strings"
  | cyclic chain => cycleText chain
  | elementIncomplete index => s!"elements[{index}] needs 'id' and 'file'"
  | elementsClash => "Element ids must be unique"
  | relationIncomplete index => s!"relations[{index}] needs 'subject', 'predicate' and 'object'"
  | relationUnknown index side given => s!"relations[{index}].{side} refers to unknown element {given.display}"
  | formatDisabled format => s!"Output format {Text.quoted format} is disabled in the root config"

/-- A fault in the structure of a template, a path or the document as a whole. -/
inductive MappingError where
  | noDocument
  | badPath (path : String)
  | cyclic (chain : List String)
  /-- Node templates are nested deeper than allowed, at this one. -/
  | tooDeep (limit : Nat) (node : String)

/-- The wording of a mapping error; what exactly is wrong with a path is not said. -/
def MappingError.message : MappingError → String
  | noDocument => "No JSON document to map"
  | badPath path => s!"Invalid JSONPath {Text.quoted path}"
  | cyclic chain => cycleText chain
  | tooDeep limit node => s!"Node templates nested deeper than {limit} at {Text.quoted node}"

/-- A value that its use does not admit. -/
inductive ValueError where
  | badLanguage (tag : String)
  | unknownFormat (format : String)
  /-- A reference to a node template is evaluated as if it had values of its own. -/
  | noValues
  /-- An entry of a table written as a list of pairs has another length. -/
  | notPair (index length : Nat)
  /-- An IRI that is to be shortened holds a character that no IRI admits. -/
  | badIri (iri : String)
  /-- An IRI cannot be cut into a namespace and a name. -/
  | unsplittable (iri : String)
  /-- An IRI cannot be cut into a namespace and a name that starts with a letter. -/
  | unshortenable (iri : String)
  /-- The name of a file holds the null character. -/
  | nullInName
  /-- A whole number has more digits than are read. -/
  | tooManyDigits (count : Nat)
  /-- A library does not admit a value, and says why. -/
  | refused (message : String)

/-- The wording of a value error. -/
def ValueError.message : ValueError → String
  | badLanguage tag => s!"'{tag}' is not a valid language tag!"
  | unknownFormat format =>
    s!"Unknown output format {Text.quoted format}; expected one of ['jsonld', 'rdfxml', 'turtle']"
  | noValues => "eval_value does not handle 'node-ref' value sources"
  | notPair index length =>
    s!"dictionary update sequence element #{index} has length {length}; 2 is required"
  | badIri iri =>
    "\"" ++ iri ++ "\" does not look like a valid URI, cannot serialize this. Did you want to urlencode it?"
  | unsplittable iri => s!"Can't split '{iri}'"
  | unshortenable iri =>
    s!"This graph cannot be serialized to a strict format because there is no valid way to shorten {iri}"
  | nullInName => "embedded null byte"
  | tooManyDigits count => Text.tooManyDigitsText count
  | refused message => message

/-- A value of the wrong kind at a place that is not checked beforehand. -/
inductive ShapeError where
  /-- A value that is to be walked through is neither a text, a list nor an object. -/
  | notIterable
  /-- A list or an object stands where values are compared by identity. -/
  | notComparable
  /-- A value cannot be read as a table. -/
  | notTable
  /-- A namespace that is no text cannot be joined with a local name. -/
  | notJoinable
  /-- A value has no members. -/
  | noMembers
  /-- A value that is to be trimmed is no text. -/
  | notTrimmable
  /-- An outermost node has no containing node. -/
  | noContainer
  /-- A decimal value that is no number has no place among numbers. -/
  | noOrder
  /-- A prefix holds a space. -/
  | spacedPrefix
  /-- A prefix is neither a text nor null. -/
  | prefixKind
  /-- The prefix of the names that a format needs itself stands for another namespace. -/
  | prefixTaken
  deriving DecidableEq, Repr

/-- Why a file cannot be read or written. -/
inductive FileCause where
  | missing
  | inTheWay
  | notDirectory
  | isDirectory
  deriving DecidableEq, Repr

/-- The number that stands for a cause. -/
def FileCause.number : FileCause → Nat
  | missing => 2
  | inTheWay => 17
  | notDirectory => 20
  | isDirectory => 21

/-- The wording of a cause. -/
def FileCause.text : FileCause → String
  | missing => "No such file or directory"
  | inTheWay => "File exists"
  | notDirectory => "Not a directory"
  | isDirectory => "Is a directory"

/-- A file that cannot be read or written. -/
structure FileError where
  cause : FileCause
  path : String
  deriving DecidableEq, Repr

/-- The wording of a file error. -/
def FileError.message (e : FileError) : String :=
  s!"[Errno {e.cause.number}] {e.cause.text}: {Text.quoted e.path}"

/-- Why a run ends without a result. -/
inductive Failure where
  | config (error : ConfigError)
  | mapping (error : MappingError)
  | value (error : ValueError)
  | shape (error : ShapeError)
  | file (error : FileError)
  | decode (error : Text.DecodeError)
  | json (error : Json.ParseError)
  /-- No encoding has this name. -/
  | encoding (name : String)
  /-- Nobody of this name has a home directory. -/
  | noHome (name : String)
  /-- An IRI holds a character that no written form admits. -/
  | unwritable (iri : String)

/-- The wording of a failure. -/
def Failure.message : Failure → String
  | config error => error.message
  | mapping error => error.message
  | value error => error.message
  | shape _ => "a value is of the wrong kind"
  | file error => error.message
  | decode error => error.message
  | json error => error.message
  | encoding name => s!"unknown encoding: {name}"
  | noHome name => s!"no home directory is known for {Text.quoted name}"
  | unwritable iri => s!"{Text.quoted iri} cannot be written as an IRI"

/-- What goes wrong in a library: a value that it does not admit, or one of the wrong kind. -/
inductive LibraryError where
  | value (error : ValueError)
  | shape (error : ShapeError)

/-- The failure of a run in which a library fails. -/
def LibraryError.failure : LibraryError → Failure
  | value error => .value error
  | shape error => .shape error

/-- The failure of reading a JSON text. A number that is too long is a fault of the value, not of the text. -/
def Failure.ofJson (e : Json.ParseError) : Failure :=
  match e.cause with
  | .tooManyDigits count => .value (.tooManyDigits count)
  | _ => .json e

end GraphLift
