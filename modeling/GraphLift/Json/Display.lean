import GraphLift.Json.Basic
import GraphLift.Text.Quoted

/-! # JSON values in messages

    Messages and stringified configuration entries show values in a notation of their own: `None`, `True` and
    `False`, quoted text, and a blank after every comma and colon.

    * `Json.display` shows a value with quotes around text.
    * `Json.label` is the same, but a text on its own stands without quotes.
-/

namespace GraphLift

namespace Json

/-- Doubles in messages. -/
def displaySpelling : Binary64.Spelling := ⟨-4, 16, "inf", "nan"⟩

mutual

/-- The value as messages show it. -/
def displayChars : Json → List Char
  | .null => "None".toList
  | .bool true => "True".toList
  | .bool false => "False".toList
  | .int n => (toString n).toList
  | .real x => (x.spelled displaySpelling).toList
  | .text s => (Text.quoted s).toList
  | .array items => '[' :: (displayItems items ++ [']'])
  | .object members => '\x7b' :: (displayMembers members ++ ['\x7d'])

/-- Values with a comma and a blank between them. -/
def displayItems : List Json → List Char
  | [] => []
  | [v] => displayChars v
  | v :: w :: rest => displayChars v ++ ',' :: ' ' :: displayItems (w :: rest)

/-- Members with a comma and a blank between them. -/
def displayMembers : List (String × Json) → List Char
  | [] => []
  | [(n, v)] => (Text.quoted n).toList ++ ':' :: ' ' :: displayChars v
  | (n, v) :: w :: rest =>
    (Text.quoted n).toList ++ ':' :: ' ' :: (displayChars v ++ ',' :: ' ' :: displayMembers (w :: rest))

end

/-- The value as messages show it. -/
def display (v : Json) : String :=
  String.ofList (displayChars v)

/-- The value as a label: text as it is, anything else as messages show it. -/
def label : Json → String
  | .text s => s
  | v => v.display

end Json

/-- An optional text as messages show it. -/
def displayOption : Option String → String
  | none => "None"
  | some s => Text.quoted s

end GraphLift
