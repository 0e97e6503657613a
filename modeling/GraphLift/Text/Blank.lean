/-!
# Blank characters and trimming

The blank characters are the white space of the character standard together with the four separator
controls before the space. A zero-width space and a byte order mark are not blank.

- `trim` removes blanks at both ends; `trimChars` is the same on lists.
- `isBlank` holds of a text of blanks only, the empty text included.
-/

namespace GraphLift.Text

/-- White space and the separator controls. -/
def isBlankChar (c : Char) : Bool :=
  let n := c.toNat
  (0x09 ≤ n && n ≤ 0x0D) || (0x1C ≤ n && n ≤ 0x20) || n == 0x85 || n == 0xA0 || n == 0x1680
    || (0x2000 ≤ n && n ≤ 0x200A) || n == 0x2028 || n == 0x2029 || n == 0x202F || n == 0x205F
    || n == 0x3000

/-- The characters without the blanks at the end. -/
def trimEndChars : List Char → List Char
  | [] => []
  | c :: cs =>
    match trimEndChars cs with
    | [] => if isBlankChar c then [] else [c]
    | kept => c :: kept

/-- The characters without the blanks at both ends. -/
def trimChars (cs : List Char) : List Char :=
  trimEndChars (cs.dropWhile isBlankChar)

/-- The text without the blanks at both ends. -/
def trim (s : String) : String :=
  String.ofList (trimChars s.toList)

/-- The text holds nothing but blanks. -/
def isBlank (s : String) : Bool :=
  s.toList.all isBlankChar

/-- No text, or one of blanks only. -/
def isMissing : Option String → Bool
  | none => true
  | some s => isBlank s

end GraphLift.Text
