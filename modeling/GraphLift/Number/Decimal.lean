import GraphLift.Text.Numeral

/-! # Decimal numerals

    A numeral is a sign, digits of any script with at most one point among them, and perhaps an exponent after
    the letter E. The words for the infinite values and for what is no number count as numerals, too.

    * **Reading** (`Numeral.read?`) takes a text without blanks and underscores.
    * **Plain notation** (`Decimal.text`) writes all digits and no exponent.
-/

namespace GraphLift

/-- A decimal number: its sign, its digits and the power of ten to multiply them with. -/
structure Decimal where
  negative : Bool
  digits : Nat
  power : Int
  deriving DecidableEq, Repr

namespace Decimal

/-- The digits of any script at the front of a text, and what follows them. -/
def digitsOf (s : List Char) : List Char × List Char :=
  (s.takeWhile Text.isDigit, s.dropWhile Text.isDigit)

/-- Reads an exponent that reaches to the end. -/
def exponent? (s : List Char) : Option Int :=
  match s with
  | [] => some 0
  | c :: r =>
    if c = 'e' || c = 'E' then
      let (negative, t) := Text.splitSign r
      match digitsOf t with
      | (d :: ds, []) =>
        let n : Int := Text.foldDigits 0 (d :: ds)
        some (if negative then -n else n)
      | _ => none
    else none

/-- The number that an unsigned numeral writes. -/
def ofChars? (negative : Bool) (s : List Char) : Option Decimal :=
  let (whole, t) := digitsOf s
  let (places, t) := match t with
    | '.' :: r => digitsOf r
    | _ => ([], t)
  if whole.isEmpty && places.isEmpty then none
  else (exponent? t).map fun power =>
    ⟨negative, Text.foldDigits 0 (whole ++ places), power - (places.length : Int)⟩

/-- The plain notation of a decimal number. -/
def text (d : Decimal) : String :=
  let digits := Nat.toDigits 10 d.digits
  let body :=
    if d.power ≥ 0 then
      if d.digits = 0 then digits else digits ++ List.replicate d.power.toNat '0'
    else
      let places := (-d.power).toNat
      let padded := List.replicate (places + 1 - digits.length) '0' ++ digits
      padded.take (padded.length - places) ++ '.' :: padded.drop (padded.length - places)
  String.ofList (if d.negative then '-' :: body else body)

/-- The power of ten of the first digit. -/
def leadingPower (d : Decimal) : Int :=
  d.power + (Nat.toDigits 10 d.digits).length - 1

end Decimal

/-- What a numeral can write. -/
inductive Numeral where
  | finite (d : Decimal)
  | infinite (negative : Bool)
  /-- No number: its sign, whether it is meant to raise an alarm, and digits of no numeric meaning. -/
  | undefined (negative alarming : Bool) (payload : List Char)
  deriving DecidableEq, Repr

namespace Numeral

/-- A text in lower case, where it is basic Latin. -/
def folded (s : List Char) : List Char :=
  s.map Char.toLower

/-- The digits that may follow the word for no number, without zeros in front. -/
def payload? (s : List Char) : Option (List Char) :=
  if s.all Text.isDigit then
    some ((s.filterMap fun c => (Text.digitValue? c).map Nat.digitChar).dropWhile (· == '0'))
  else none

/-- The value that a word writes. -/
def ofWord? (negative : Bool) (s : List Char) : Option Numeral :=
  match folded s with
  | ['i', 'n', 'f'] | ['i', 'n', 'f', 'i', 'n', 'i', 't', 'y'] => some (.infinite negative)
  | 'n' :: 'a' :: 'n' :: rest => (payload? rest).map (.undefined negative false ·)
  | 's' :: 'n' :: 'a' :: 'n' :: rest => (payload? rest).map (.undefined negative true ·)
  | _ => none

/-- Reads a numeral. -/
def read? (s : List Char) : Option Numeral :=
  let (negative, t) := Text.splitSign s
  match Decimal.ofChars? negative t with
  | some d => some (.finite d)
  | none => ofWord? negative t

/-- The notation of a value, plain if it is finite. -/
def text : Numeral → String
  | .finite d => d.text
  | .infinite negative => if negative then "-Infinity" else "Infinity"
  | .undefined negative alarming payload =>
    (if negative then "-" else "") ++ (if alarming then "sNaN" else "NaN") ++ String.ofList payload

/-- The power of ten from which on no first digit is admitted. -/
def powerLimit : Int := 1000000000000000000

/-- Reads a numeral of a decimal datatype: blanks around it and underscores do not count. -/
def readDecimal? (s : String) : Option Numeral :=
  (read? ((Text.trimChars s.toList).filter (· != '_'))).filter fun
    | .finite d => d.power < powerLimit && d.leadingPower < powerLimit
    | _ => true

end Numeral

end GraphLift
