import GraphLift.Text.Blank

/-!
# Numerals in any script

Numbers may be written with the decimal digits of any script. `digitValue?` reads one digit and
`readInteger?` a signed whole number, in which a single underscore may stand between two digits.

A whole number of more than `maxDigits` digits is not read; leading zeros count, underscores do not.
-/

namespace GraphLift.Text

/-- The zero of every run of ten decimal digits. -/
def digitZeros : List Nat := [
  0x30, 0x660, 0x6F0, 0x7C0, 0x966, 0x9E6, 0xA66, 0xAE6,
  0xB66, 0xBE6, 0xC66, 0xCE6, 0xD66, 0xDE6, 0xE50, 0xED0,
  0xF20, 0x1040, 0x1090, 0x17E0, 0x1810, 0x1946, 0x19D0, 0x1A80,
  0x1A90, 0x1B50, 0x1BB0, 0x1C40, 0x1C50, 0xA620, 0xA8D0, 0xA900,
  0xA9D0, 0xA9F0, 0xAA50, 0xABF0, 0xFF10, 0x104A0, 0x10D30, 0x11066,
  0x110F0, 0x11136, 0x111D0, 0x112F0, 0x11450, 0x114D0, 0x11650, 0x116C0,
  0x11730, 0x118E0, 0x11950, 0x11C50, 0x11D50, 0x11DA0, 0x16A60, 0x16AC0,
  0x16B50, 0x1D7CE, 0x1D7D8, 0x1D7E2, 0x1D7EC, 0x1D7F6, 0x1E140, 0x1E2F0,
  0x1E950, 0x1FBF0]

/-- The value of a decimal digit of any script. -/
def digitValue? (c : Char) : Option Nat :=
  (digitZeros.find? fun z => z ≤ c.toNat && c.toNat ≤ z + 9).map (c.toNat - ·)

/-- A decimal digit of any script. -/
def isDigit (c : Char) : Bool :=
  (digitValue? c).isSome

/-- The most digits that a whole number may have. -/
def maxDigits : Nat := 4300

/-- The wording of the refusal of a longer number. -/
def tooManyDigitsText (count : Nat) : String :=
  s!"Exceeds the limit ({maxDigits} digits) for integer string conversion: value has {count} digits; "
    ++ "use sys.set_int_max_str_digits() to increase the limit"

/-- One of the ten digits of the basic Latin block. -/
def isAsciiDigit (c : Char) : Bool :=
  '0' ≤ c && c ≤ '9'

/-- The value of a hexadecimal digit in either letter case. -/
def hexValue? (c : Char) : Option Nat :=
  if isAsciiDigit c then some (c.toNat - '0'.toNat)
  else if 'a' ≤ c && c ≤ 'f' then some (c.toNat - 'a'.toNat + 10)
  else if 'A' ≤ c && c ≤ 'F' then some (c.toNat - 'A'.toNat + 10)
  else none

/-- The value of a run of basic Latin digits, read from the left after the digits of `acc`. -/
def readDigits (acc : Nat) : List Char → Nat
  | [] => acc
  | c :: cs => readDigits (acc * 10 + (c.toNat - '0'.toNat)) cs

/-- The value of a run of digits of any script, read from the left after the digits of `acc`. -/
def foldDigits (acc : Nat) : List Char → Nat
  | [] => acc
  | c :: cs => foldDigits (acc * 10 + (digitValue? c).getD 0) cs

/-- The value of a run of digits of any script, unless there are too many of them. -/
def wholeNumber? (digits : List Char) : Option Nat :=
  if digits.length ≤ maxDigits then some (foldDigits 0 digits) else none

/-- The digits of a run with single underscores between digits; `afterDigit` says that a digit stands right
before. -/
def spacedDigits? (afterDigit : Bool) : List Char → Option (List Char)
  | [] => if afterDigit then some [] else none
  | '_' :: cs => if afterDigit then spacedDigits? false cs else none
  | c :: cs => if isDigit c then (spacedDigits? true cs).map (c :: ·) else none

/-- Splits a sign off the front: `true` for a minus. -/
def splitSign : List Char → Bool × List Char
  | '-' :: cs => (true, cs)
  | '+' :: cs => (false, cs)
  | cs => (false, cs)

/-- The whole number that a text writes, blanks around it aside. -/
def readInteger? (s : String) : Option Int :=
  let (negative, digits) := splitSign (trimChars s.toList)
  ((spacedDigits? false digits).bind wholeNumber?).map fun n => if negative then -(n : Int) else n

end GraphLift.Text
