import GraphLift.Rdf.Datatype

/-! # Collections

    A collection is a chain of cells: each has an item and the next cell, and nothing else is said about it.

    * **The end** is the empty collection, a cell with no next one, or a next cell that counts as nothing.
    * **What is refused**: a chain with a cell about which more or less than two things are said, or with a
      literal for a cell. Such nodes are no collection, and neither is a node without an item.
-/

namespace GraphLift

namespace Turtle

namespace Collection

/-- The first object that triples give a node for a predicate. -/
def object? (ts : List Triple) (n : Node) (predicate : String) : Option Term :=
  (ts.find? fun t => t.subject == n && t.predicate == predicate).map (·.object)

/-- Exactly two things are said about a node, or it is the empty collection. -/
def isCell (ts : List Triple) (n : Node) : Bool :=
  n == .iri rdfNil || (ts.filter (·.subject == n)).length == 2

/-- The cells from one on that have an item, with their items; `room` is for as many cells as a chain has. -/
def cellsFrom? (ts : List Triple) : (room : Nat) → Node → Option (List (Node × Term))
  | 0, _ => none
  | room + 1, cell =>
    if cell = .iri "" then some []
    else if !isCell ts cell then none
    else do
      let rest ← match object? ts cell rdfRest with
        | none => some []
        | some (.literal l) => if l.isNothing then some [] else none
        | some (.node next) => cellsFrom? ts room next
      return ((object? ts cell rdfFirst).map (cell, ·)).toList ++ rest

/-- The cells of the collection that starts at a node, with their items. A chain that does not run in circles
    has at most one cell for each triple and the empty collection. -/
def cells? (ts : List Triple) (n : Node) : Option (List (Node × Term)) :=
  (object? ts n rdfFirst).bind fun _ => cellsFrom? ts (ts.length + 2) n

end Collection

end Turtle

end GraphLift
