import GraphLift.Turtle.Writer

/-! # Writing RDF/XML

    A graph is written as one description per subject, with one element per statement. The name of an element
    is a short name of the predicate, so each predicate needs one whose local name starts with a letter. The
    prefix `rdf` must not stand for another namespace in any of them.
-/

namespace GraphLift

namespace RdfXml

/-- A character of a text or of an attribute. -/
def escapeChar (c : Char) : String :=
  if c = '&' then "&amp;"
  else if c = '<' then "&lt;"
  else if c = '>' then "&gt;"
  else if c = '"' then "&quot;"
  else String.singleton c

/-- A text between tags or between quotes. -/
def escape (s : String) : String :=
  String.join (s.toList.map escapeChar)

/-- An attribute with a blank before it. -/
def attr (name value : String) : String :=
  " " ++ name ++ "=\"" ++ escape value ++ "\""

/-- The attribute that names a subject. -/
def about : Node → String
  | .iri s => attr "rdf:about" s
  | .blank n => attr "rdf:nodeID" s!"b{n}"

/-- The namespace of the names that the format needs itself. -/
def rdfNamespace : String := "http://www.w3.org/1999/02/22-rdf-syntax-ns#"

/-- The element of a statement. -/
def element (tag : String) (o : Term) : String :=
  "    <" ++ tag ++ match o with
    | .node (.iri s) => attr "rdf:resource" s ++ "/>\n"
    | .node (.blank n) => attr "rdf:nodeID" s!"b{n}" ++ "/>\n"
    | .literal ⟨s, .plain⟩ => ">" ++ escape s ++ "</" ++ tag ++ ">\n"
    | .literal ⟨s, .language l⟩ => attr "xml:lang" l ++ ">" ++ escape s ++ "</" ++ tag ++ ">\n"
    | .literal ⟨s, .datatype d⟩ => attr "rdf:datatype" d ++ ">" ++ escape s ++ "</" ++ tag ++ ">\n"

/-- The RDF/XML text of a graph. -/
def write (g : Graph) (ns : Namespaces) : Except Failure String := do
  let predicates := Turtle.distinct (g.triples.map (·.predicate))
  let ns := predicates.foldl ShortName.ensureStrict ns
  let tags ← predicates.mapM fun p => do return (p, ← (ShortName.strict ns p).mapError .value)
  if tags.any fun t => t.2.name = "rdf" && t.2.iri ≠ rdfNamespace then throw (.shape .prefixTaken)
  let bound := ("rdf", rdfNamespace) :: tags.map fun t => (t.2.name, t.2.iri)
  let header := (Turtle.distinct bound).map fun b => attr ("xmlns:" ++ b.1) b.2
  let tagOf (p : String) : String :=
    match tags.find? (·.1 == p) with
    | some (_, s) => s.name ++ ":" ++ s.rest
    | none => p
  let layout : Turtle.Layout := ⟨g.triples, { namespaces := ns }⟩
  let description (s : Node) : String :=
    "  <rdf:Description" ++ about s ++ ">\n"
      ++ String.join ((layout.said s).flatMap fun p => p.2.map (element (tagOf p.1)))
      ++ "  </rdf:Description>\n"
  return "<?xml version=\"1.0\" encoding=\"utf-8\"?>\n<rdf:RDF" ++ String.join header ++ ">\n"
    ++ String.join (layout.subjects.map description) ++ "</rdf:RDF>\n"

end RdfXml

end GraphLift
