import GraphLift.Json.Basic
import GraphLift.Text.Quoted

/-! # Compact JSON text

    `Json.compact` writes a value without blanks and keeps every character that need not be escaped.
    `Json.asText` is how a value reads when the mapping takes it as text: a string as it is, anything else
    in compact form, and null as no text at all.
-/

namespace GraphLift

namespace Json

/-- Doubles in documents: plain from one ten-thousandth up to sixteen digits before the point. -/
def numberSpelling : Binary64.Spelling := ⟨-4, 16, "Infinity", "NaN"⟩

/-- A character as it stands in a JSON string: quote, backslash and the control characters are escaped. -/
def escapeChar (c : Char) : List Char :=
  if c = '"' then ['\\', '"']
  else if c = '\\' then ['\\', '\\']
  else if c = '\n' then ['\\', 'n']
  else if c = '\r' then ['\\', 'r']
  else if c = '\t' then ['\\', 't']
  else if c = '\x08' then ['\\', 'b']
  else if c = '\x0c' then ['\\', 'f']
  else if c.toNat < 0x20 then '\\' :: 'u' :: Text.hexDigits 4 c.toNat
  else [c]

/-- A JSON string with its quotes. -/
def stringChars (s : String) : List Char :=
  '"' :: (s.toList.flatMap escapeChar ++ ['"'])

mutual

/-- The compact text of a value. -/
def compactChars : Json → List Char
  | .null => "null".toList
  | .bool true => "true".toList
  | .bool false => "false".toList
  | .int n => (toString n).toList
  | .real x => (x.spelled numberSpelling).toList
  | .text s => stringChars s
  | .array items => '[' :: (itemChars items ++ [']'])
  | .object members => '\x7b' :: (memberChars members ++ ['\x7d'])

/-- Values with commas between them. -/
def itemChars : List Json → List Char
  | [] => []
  | [v] => compactChars v
  | v :: w :: rest => compactChars v ++ ',' :: itemChars (w :: rest)

/-- Members with commas between them. -/
def memberChars : List (String × Json) → List Char
  | [] => []
  | [(n, v)] => stringChars n ++ ':' :: compactChars v
  | (n, v) :: w :: rest => stringChars n ++ ':' :: (compactChars v ++ ',' :: memberChars (w :: rest))

end

/-- The compact text of a value. -/
def compact (v : Json) : String :=
  String.ofList (compactChars v)

/-- The text that a value stands for; null has none. -/
def asText : Json → Option String
  | .null => none
  | .text s => some s
  | v => some v.compact

end Json

end GraphLift
