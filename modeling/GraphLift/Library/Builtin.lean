import GraphLift.JsonLd
import GraphLift.JsonPath.Parser
import GraphLift.JsonPath.Select
import GraphLift.Library
import GraphLift.Rdf.Datatype
import GraphLift.RdfXml
import GraphLift.Text.Encoding

/-! # The library of the program

    What a run takes from elsewhere, as far as the program has it: a language of paths, the datatypes of the schema
    vocabulary, four encodings, and a writer for each format.
-/

namespace GraphLift

/-- Letters, then groups of letters and digits after hyphens; one line feed may end it. -/
def Literal.isLanguageTag (tag : String) : Bool :=
  let cs := tag.toList
  let cs := if cs.getLast? = some '\n' then cs.dropLast else cs
  match cs.splitOn '-' with
  | [] => false
  | first :: groups =>
    isGroup isLetter first && groups.all (isGroup fun c => isLetter c || Text.isAsciiDigit c)
where
  /-- A basic Latin letter. -/
  isLetter (c : Char) : Bool := ('a' ≤ c && c ≤ 'z') || ('A' ≤ c && c ≤ 'Z')
  /-- At least one character, all of them of a class. -/
  isGroup (p : Char → Bool) (cs : List Char) : Bool := !cs.isEmpty && cs.all p

/-- The text of a graph in a format. -/
def Format.write (format : Format) (g : Graph) (ns : Namespaces) : Except Failure String :=
  match format with
  | .turtle => Turtle.write g ns
  | .rdfXml => RdfXml.write g ns
  | .jsonLd => .ok (JsonLd.write g)

/-- The nodes that a path leads to. A path that asks for the container of an outermost node is a fault of the path language
    itself. -/
def JsonPath.nodesOf (p : Path) (v : Json) : Except LibraryError (List Json) :=
  match select p v with
  | none => .error (.shape .noContainer)
  | some found => .ok (found.map (·.value))

theorem JsonPath.nodesOf_of_select {p : Path} {v : Json} {found : List Spot} (h : select p v = some found) :
    nodesOf p v = .ok (found.map (·.value)) := by
  unfold nodesOf
  rw [h]

/-- The library of the program. -/
instance Library.builtin : Library where
  Path := JsonPath.Path
  path? := JsonPath.parse?
  select := JsonPath.nodesOf
  isLanguageTag := Literal.isLanguageTag
  normalize := Datatype.normalize
  codec? name := (Text.Encoding.named? name).map (·.decode)
  write := Format.write

end GraphLift
