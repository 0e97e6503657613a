import GraphLift.Rdf.Term

/-! # Descriptions

    A description is what a template says of one resource, before blank nodes have numbers: who the resource
    is, which type it has, and its statements. Resources within it are described in place, so a description is
    a tree.

    * **Order**: `emit` numbers blank nodes in the order in which the tree is walked, a resource before what is
      said of it, and the objects of a statement one after the other.
    * **Triples** come in the same order; what is said of an object precedes the triple that attaches it.
-/

namespace GraphLift

/-- Who a resource is: the bearer of an IRI, or a node of its own without name. -/
inductive Identity where
  | iri (s : String)
  | fresh
  deriving DecidableEq, Repr

mutual

/-- What is said of a resource. -/
inductive Description where
  | mk (identity : Identity) (type : Option String) (statements : List Statement)

/-- A predicate with its objects. -/
inductive Statement where
  | mk (predicate : String) (objects : List Value)

/-- An object: a literal or a resource with what is said of it. -/
inductive Value where
  | literal (l : Literal)
  | resource (d : Description)

end

/-- A resource of which nothing is said. -/
def Description.bare (i : Identity) : Description := .mk i none []

/-- The node of an identity, and the number of the next blank node. -/
def Identity.name (next : Nat) : Identity → Node × Nat
  | iri s => (.iri s, next)
  | fresh => (.blank next, next + 1)

/-- The triple that gives a node its type, if it has one. -/
def typeTriples (node : Node) : Option String → List Triple
  | none => []
  | some t => [⟨node, rdfType, .node (.iri t)⟩]

/-- What comes out of a description: its node, its triples and the number of the next blank node. -/
structure Emission (α : Type) where
  value : α
  triples : List Triple
  next : Nat

mutual

/-- The node and the triples of a description. -/
def Description.emit (next : Nat) : Description → Emission Node
  | .mk identity type statements =>
    let (node, next) := identity.name next
    let said := emitStatements node next statements
    ⟨node, typeTriples node type ++ said.triples, said.next⟩

/-- The triples of statements about a node. -/
def emitStatements (node : Node) (next : Nat) : List Statement → Emission Unit
  | [] => ⟨(), [], next⟩
  | s :: rest =>
    let head := s.emit node next
    let tail := emitStatements node head.next rest
    ⟨(), head.triples ++ tail.triples, tail.next⟩

/-- The triples of a statement about a node. -/
def Statement.emit (node : Node) (next : Nat) : Statement → Emission Unit
  | .mk predicate objects =>
    let found := emitValues next objects
    ⟨(), found.triples ++ found.value.map (⟨node, predicate, ·⟩), found.next⟩

/-- The terms of objects, with the triples that describe them. -/
def emitValues (next : Nat) : List Value → Emission (List Term)
  | [] => ⟨[], [], next⟩
  | v :: rest =>
    let head := v.emit next
    let tail := emitValues head.next rest
    ⟨head.value :: tail.value, head.triples ++ tail.triples, tail.next⟩

/-- The term of an object, with the triples that describe it. -/
def Value.emit (next : Nat) : Value → Emission Term
  | .literal l => ⟨.literal l, [], next⟩
  | .resource d =>
    let e := d.emit next
    ⟨.node e.value, e.triples, e.next⟩

end

/-- The nodes and triples of descriptions, one after the other. -/
def emitAll (next : Nat) : List Description → Emission (List Node)
  | [] => ⟨[], [], next⟩
  | d :: rest =>
    let head := d.emit next
    let tail := emitAll head.next rest
    ⟨head.value :: tail.value, head.triples ++ tail.triples, tail.next⟩

end GraphLift
