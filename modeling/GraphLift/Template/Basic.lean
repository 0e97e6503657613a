import GraphLift.Json.Basic

/-! # Templates

    A resource template says how the nodes of a document that its scope path selects become resources.

    * **Subject rule**: how a resource gets its IRI.
    * **Properties**: where the values of each predicate come from. A property may refer to a node template.
    * **Node templates**: resources of their own within a resource, with properties of their own.
-/

namespace GraphLift

/-- What a property's values become. -/
inductive ValueKind where
  | literal
  | iri
  /-- Instances of a node template. -/
  | nodeRef
  deriving DecidableEq, Repr

/-- How a configuration writes a kind of value. -/
def ValueKind.text : ValueKind → String
  | literal => "literal"
  | iri => "iri"
  | nodeRef => "node-ref"

/-- Whether the instances of a node template are anonymous. -/
inductive NodeKind where
  | anonymous
  | iri
  deriving DecidableEq, Repr

/-- How a configuration writes a kind of node template. -/
def NodeKind.text : NodeKind → String
  | anonymous => "bnode"
  | iri => "iri"

/-- One property: a predicate and where its values come from. -/
structure Property where
  predicate : String
  kind : ValueKind := .literal
  /-- A fixed value. It wins over a path. -/
  const : Option String := none
  path : Option String := none
  /-- The paths that the numbered markers of the format stand for. -/
  indexedPaths : List String := []
  format : Option String := none
  /-- Replacements of values; if there are any, other values are dropped. -/
  valueMap : List (String × String) := []
  /-- Keeps all results of the path and not only the first. -/
  multi : Bool := false
  lang : Option String := none
  datatype : Option String := none
  /-- The node template that the property refers to. -/
  node : Option String := none
  deriving DecidableEq, Repr

/-- A resource within a resource. -/
structure NodeTemplate where
  id : String
  kind : NodeKind := .anonymous
  const : Option String := none
  path : Option String := none
  format : Option String := none
  typeRef : Option String := none
  multi : Bool := false
  valueMap : List (String × String) := []
  properties : List (String × Property) := []
  deriving DecidableEq, Repr

/-- How a resource gets its IRI: the first of these that yields one. -/
structure SubjectRule where
  const : Option String := none
  template : Option String := none
  format : Option String := none
  path : Option String := none
  deriving DecidableEq, Repr

/-- The reference of a type: a text, or a value of another kind, which cannot be expanded. -/
inductive Reference where
  | text (s : String)
  | other (v : Json)

/-- The reference that a JSON value stands for; null is none. -/
def Reference.ofJson? : Json → Option Reference
  | .null => none
  | .text s => some (text s)
  | v => some (other v)

/-- A template for resources. -/
structure ResourceTemplate where
  subject : SubjectRule := {}
  scopePath : Option String := none
  typeRef : Option Reference := none
  properties : List (String × Property) := []
  nodes : List NodeTemplate := []

/-- The node template with a given name. -/
def ResourceTemplate.node? (t : ResourceTemplate) (id : String) : Option NodeTemplate :=
  t.nodes.find? (·.id == id)

end GraphLift
