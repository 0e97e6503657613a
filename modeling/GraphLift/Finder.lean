import GraphLift.Json.Compact
import GraphLift.Library
import GraphLift.Text.Blank

/-! # Looking things up in a document

    A `Finder` holds a document and the node of it that is in scope. A path is followed from the scope; a path
    that starts with two dollar signs loses one of them and is followed from the whole document.

    * **`nodes`** gives every match, null included.
    * **`values`** gives the text of every match that has one; a missing or blank path gives nothing.
    * **`first`** gives the first of the values.
-/

namespace GraphLift

/-- A document and the node of it that is in scope. -/
structure Finder where
  root : Json
  scope : Json

namespace Finder

/-- A finder on a whole document, which must not be null. -/
def ofDocument (document : Json) : Except Failure Finder :=
  if document.isNull then .error (.mapping .noDocument) else .ok ⟨document, document⟩

/-- The finder with another node in scope. -/
def moveTo (f : Finder) (node : Json) : Finder := ⟨f.root, node⟩

/-- The node a path starts from and the path to follow from there. -/
def target (f : Finder) (path : String) : Json × String :=
  match path.toList with
  | '$' :: '$' :: rest => (f.root, String.ofList ('$' :: rest))
  | _ => (f.scope, path)

variable [Library]

/-- The nodes that a path leads to. -/
def nodes (f : Finder) (path : String) : Except Failure (List Json) :=
  let (start, text) := f.target path
  match Library.path? text with
  | none => .error (.mapping (.badPath text))
  | some p => (Library.select p start).mapError LibraryError.failure

/-- The texts of the nodes that a path leads to; nodes without text are left out. -/
def values (f : Finder) (path : Option String) : Except Failure (List String) :=
  match path with
  | none => .ok []
  | some p => if Text.isBlank p then .ok [] else (f.nodes (Text.trim p)).map (·.filterMap Json.asText)

/-- The first text that a path leads to. -/
def first (f : Finder) (path : Option String) : Except Failure (Option String) :=
  (f.values path).map List.head?

end Finder

end GraphLift
