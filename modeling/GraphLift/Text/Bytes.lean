import GraphLift.Text.Numeral

/-! # Bytes written as text

    Two notations for runs of bytes.

    * **Hexadecimal**: two digits a byte, read in either letter case and written in lower case.
    * **Base 64**: four characters for three bytes. Reading skips characters that are none of the 64; it ends at
      equals signs that complete a group of four, and refuses a text that ends within a group.
-/

namespace GraphLift.Text

/-! ## Hexadecimal -/

/-- The bytes that a text of hexadecimal digits writes. -/
def readHex? : List Char → Option (List Nat)
  | [] => some []
  | [_] => none
  | a :: b :: r => do return ((← hexValue? a) * 16 + (← hexValue? b)) :: (← readHex? r)

/-- Bytes in hexadecimal digits. -/
def writeHex (bytes : List Nat) : String :=
  String.ofList (bytes.flatMap fun b => [Nat.digitChar (b / 16), Nat.digitChar (b % 16)])

/-! ## Base 64 -/

/-- The characters of the notation, by value. -/
def base64Alphabet : List Char :=
  "ABCDEFGHIJKLMNOPQRSTUVWXYZabcdefghijklmnopqrstuvwxyz0123456789+/".toList

/-- The value of a character. -/
def base64Value? (c : Char) : Option Nat :=
  base64Alphabet.idxOf? c

/-- Reads the characters of a text. `held` has those of the group that is being read, the last one in front, and
    `pads` counts the equals signs after them. -/
def readGroups? (held : List Nat) (pads : Nat) : List Char → Option (List Nat)
  | [] => if held.isEmpty then some [] else none
  | c :: r =>
    if c = '=' then
      if held.length ≥ 2 && held.length + (pads + 1) ≥ 4 then some []
      else readGroups? held (if held.length ≥ 2 then pads + 1 else pads) r
    else match base64Value? c, held with
      | none, _ => readGroups? held pads r
      | some v, [] => readGroups? [v] 0 r
      | some v, [a] => (readGroups? [v, a] 0 r).map ((a * 4 + v / 16) :: ·)
      | some v, [b, a] => (readGroups? [v, b, a] 0 r).map ((b % 16 * 16 + v / 4) :: ·)
      | some v, held => (readGroups? [] 0 r).map ((held.headD 0 % 4 * 64 + v) :: ·)

/-- The bytes that a basic Latin text writes in the notation. -/
def readBase64? (s : List Char) : Option (List Nat) :=
  if s.all (·.toNat < 128) then readGroups? [] 0 s else none

/-- The character of a value. -/
def base64Char (n : Nat) : Char :=
  base64Alphabet.getD n '='

/-- The characters of bytes, in groups of four. -/
def base64Groups : List Nat → List Char
  | [] => []
  | [a] => [base64Char (a / 4), base64Char (a % 4 * 16), '=', '=']
  | [a, b] => [base64Char (a / 4), base64Char (a % 4 * 16 + b / 16), base64Char (b % 16 * 4), '=']
  | a :: b :: c :: r =>
    base64Char (a / 4) :: base64Char (a % 4 * 16 + b / 16) :: base64Char (b % 16 * 4 + c / 64)
      :: base64Char (c % 64) :: base64Groups r

/-- Bytes in the notation. -/
def writeBase64 (bytes : List Nat) : String :=
  String.ofList (base64Groups bytes)

end GraphLift.Text
