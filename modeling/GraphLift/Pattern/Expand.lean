import GraphLift.Finder
import GraphLift.Pattern.Basic

/-! # Expanding patterns

    `expand` replaces each marker by what it stands for. The text put in is not read again, so nothing that
    comes from a document can bring in a marker.
-/

namespace GraphLift

namespace Pattern

/-- What the markers of a pattern refer to. Without a finder no marker for a path is replaced. -/
structure Bindings where
  finder : Option Finder := none
  value : Option String := none
  indexed : List String := []

variable [Library]

/-- The first text that a path leads to, or no characters. -/
def lookUp (f : Finder) (path : String) : Except Failure String :=
  (f.first (some path)).map (·.getD "")

/-- What replaces the marker with this body. -/
def substitute (b : Bindings) (body : String) : Except Failure String :=
  match meaning body with
  | .value => .ok (b.value.getD (raw body))
  | .indexed n =>
    match b.finder, (if n = 0 then none else b.indexed[n - 1]?) with
    | some f, some path => lookUp f path
    | _, _ => .ok (raw body)
  | .overlong digits => .error (.value (.tooManyDigits digits))
  | .path =>
    match b.finder with
    | some f => lookUp f body
    | none => .ok (raw body)
  | .nothing => .ok (raw body)

/-- The text that a piece becomes. -/
def expandPiece (b : Bindings) : Piece → Except Failure String
  | .text s => .ok s
  | .marker body => substitute b body

/-- The text that a list of pieces becomes. -/
def expandPieces (b : Bindings) : List Piece → Except Failure String
  | [] => .ok ""
  | p :: rest => do
    let head ← expandPiece b p
    let tail ← expandPieces b rest
    return head ++ tail

/-- The text that a pattern becomes. -/
def expand (b : Bindings) (pattern : String) : Except Failure String :=
  expandPieces b (pieces pattern)

end Pattern

end GraphLift
