import GraphLift.Format
import GraphLift.Rdf.Namespaces
import GraphLift.Rdf.Term
import GraphLift.Report.Failure

/-! # What is taken from elsewhere

    A run relies on some things that are not decided here. A `Library` supplies them, and what is said of runs is said with
    any library.

    * **Paths** lead through documents. The text of a path is read first, and the path is followed then.
    * **Literals**: which texts are language tags, and which text a literal of a datatype holds.
    * **Codecs** by the names of encodings.
    * **Writers** of graphs, one for each format.

    A library that a program can run with is `Library.builtin`.
-/

namespace GraphLift

/-- What a run takes from elsewhere. -/
class Library where
  /-- What the text of a path is read as. -/
  Path : Type
  /-- The path that a text spells, if any. -/
  path? : String → Option Path
  /-- The nodes that a path leads to from a node, in order. -/
  select : Path → Json → Except LibraryError (List Json)
  /-- The text can stand for a language. -/
  isLanguageTag : String → Bool
  /-- What a literal of a datatype holds for a text. -/
  normalize (datatype text : String) : String
  /-- The codec of the encoding with a given name, if there is one. -/
  codec? : String → Option Text.Codec
  /-- The text of a graph in a format. -/
  write : Format → Graph → Namespaces → Except Failure String

variable [Library]

/-- A literal with a datatype. -/
def Literal.typed (text datatype : String) : Literal :=
  ⟨Library.normalize datatype text, .datatype datatype⟩

/-- The text of a graph in the format with a given name. -/
def Format.serialize (name : String) (g : Graph) (ns : Namespaces) : Except Failure String :=
  match named? name with
  | some format => Library.write format g ns
  | none => .error (.value (.unknownFormat name))

end GraphLift
