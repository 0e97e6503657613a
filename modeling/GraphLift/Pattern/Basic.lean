import GraphLift.Text.Numeral

/-! # Text patterns

    A pattern is text with markers of the form `${body}`. Reading goes once from left to right: a marker
    reaches from its opening to the next closing brace, and an opening without a closing brace is plain text.

    * **`value`** stands for a bound value.
    * **A number** stands for the first result of one of the indexed paths, counted from one. It must not be
      longer than numbers may be.
    * **A body that starts with a dollar sign** is a path of its own.
    * **Any other body** means nothing, and the marker stays as it is.
-/

namespace GraphLift

namespace Pattern

/-- A stretch of plain text or a marker. -/
inductive Piece where
  | text (s : String)
  | marker (body : String)
  deriving DecidableEq, Repr

/-- What a marker stands for. -/
inductive Meaning where
  | value
  | indexed (n : Nat)
  /-- A number of so many digits that it is not read. -/
  | overlong (digits : Nat)
  | path
  | nothing
  deriving DecidableEq, Repr

/-- The word that stands for the bound value. -/
def valueWord : String := "value"

/-- The marker as it is written. -/
def raw (body : String) : String :=
  "$\x7b" ++ body ++ "\x7d"

/-- A piece as it is written. -/
def Piece.source : Piece → String
  | text s => s
  | marker body => raw body

/-- The body is a number in basic Latin digits. -/
def isNumber (body : String) : Bool :=
  !body.isEmpty && body.toList.all Text.isAsciiDigit

/-- The body is a path of its own. -/
def isPath (body : String) : Bool :=
  body.toList.head? = some '$'

/-- What the marker with this body stands for. -/
def meaning (body : String) : Meaning :=
  if body = valueWord then .value
  else if isNumber body then
    if body.length ≤ Text.maxDigits then .indexed (Text.readDigits 0 body.toList) else .overlong body.length
  else if isPath body then .path
  else .nothing

/-! ## Reading -/

/-- Puts a character in front, onto the plain text that stands there or as text of its own. -/
def consText (c : Char) : List Piece → List Piece
  | .text s :: rest => .text (String.singleton c ++ s) :: rest
  | ps => .text (String.singleton c) :: ps

/-- The pieces of a pattern. -/
def readPieces (s : List Char) : List Piece :=
  match s with
  | [] => []
  | '$' :: '\x7b' :: r =>
    match h : r.dropWhile (· != '\x7d') with
    | [] => [.text (String.ofList ('$' :: '\x7b' :: r))]
    | _ :: t =>
      have : t.length ≤ r.length := by
        have := (List.dropWhile_suffix (l := r) (· != '\x7d')).length_le
        rw [h] at this
        simp at this
        omega
      .marker (String.ofList (r.takeWhile (· != '\x7d'))) :: readPieces t
  | c :: r => consText c (readPieces r)
termination_by s.length

/-- The pieces of a pattern text. -/
def pieces (s : String) : List Piece :=
  readPieces s.toList

end Pattern

end GraphLift
