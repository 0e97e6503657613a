import GraphLift.Json.Compact
import GraphLift.Turtle.Writer

/-! # Writing JSON-LD

    A graph is written in expanded form: an array with one object per subject, whose members are the identifier,
    the types and the other predicates with arrays of their objects.
-/

namespace GraphLift

namespace JsonLd

/-- The identifier of a node. -/
def identifier : Node → Json
  | .iri s => .text s
  | .blank n => .text (Turtle.Layout.blankText n)

/-- An object of a statement. -/
def object : Term → Json
  | .node n => .object [("@id", identifier n)]
  | .literal ⟨s, .plain⟩ => .object [("@value", .text s)]
  | .literal ⟨s, .language tag⟩ => .object [("@value", .text s), ("@language", .text tag)]
  | .literal ⟨s, .datatype d⟩ => .object [("@value", .text s), ("@type", .text d)]

/-- A predicate with its objects. Types that are IRIs have a form of their own. -/
def member (p : String × List Term) : String × Json :=
  if p.1 = rdfType then
    ("@type", .array (p.2.map fun
      | .node n => identifier n
      | o => object o))
  else (p.1, .array (p.2.map object))

/-- The JSON value of a graph. -/
def value (g : Graph) : Json :=
  let layout : Turtle.Layout := ⟨g.triples, { namespaces := ⟨[]⟩ }⟩
  .array (layout.subjects.map fun s => .object (("@id", identifier s) :: (layout.said s).map member))

/-- The JSON-LD text of a graph. -/
def write (g : Graph) : String :=
  (value g).compact ++ "\n"

end JsonLd

end GraphLift
