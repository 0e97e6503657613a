import GraphLift.Json.Display
import GraphLift.Text.Blank
import GraphLift.Text.LetterCase

/-! # Flags

    A flag of a configuration may be written as a truth value or as a text. The text `true` in any letter case
    turns it on, blanks around it and one semicolon behind it aside. Null leaves the flag as it is, and anything
    else turns it off.
-/

namespace GraphLift

/-- The trimmed text without one semicolon at its end. -/
def withoutSemicolon (s : List Char) : List Char :=
  let t := Text.trimChars s
  if t.getLast? = some ';' then Text.trimChars t.dropLast else t

/-- The state of a flag whose state otherwise is `default`. -/
def Json.toFlag (default : Bool) : Json → Bool
  | .null => default
  | .bool b => b
  | v => Text.lowerChars [] (withoutSemicolon v.label.toList) = "true".toList

end GraphLift
