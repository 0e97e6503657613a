import GraphLift.Text.Blank

/-! # Absolute IRIs

    A text names a resource if it is an absolute IRI: a scheme, a colon and anything on the same line. A scheme
    starts with a basic Latin letter and goes on with letters, digits, plus signs, points and hyphens.
-/

namespace GraphLift

namespace Iri

/-- A basic Latin letter. -/
def isLetter (c : Char) : Bool :=
  ('a' ≤ c && c ≤ 'z') || ('A' ≤ c && c ≤ 'Z')

/-- A character that continues a scheme. -/
def isSchemeChar (c : Char) : Bool :=
  isLetter c || ('0' ≤ c && c ≤ '9') || c = '+' || c = '.' || c = '-'

/-- What follows the scheme of a text, its colon included; `none` if no scheme stands in front. The letters
    that may start the scheme are given. -/
def afterScheme? (starts : Char → Bool) (continues : Char → Bool) : List Char → Option (List Char)
  | [] => none
  | c :: rest => if starts c then some (rest.dropWhile continues) else none

/-- A scheme, a colon and no line feed after it. -/
def isAbsoluteChars (s : List Char) : Bool :=
  match afterScheme? isLetter isSchemeChar s with
  | some (':' :: rest) => !rest.contains '\n'
  | _ => false

/-- The text is an absolute IRI. -/
def isAbsolute (s : String) : Bool :=
  isAbsoluteChars s.toList

end Iri

end GraphLift
