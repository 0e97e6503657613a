import GraphLift.Number.Binary64
import GraphLift.Number.Decimal

/-! # Doubles as text

    A double is written as a numeral in two ways.

    * **Shortest**: as few digits as read back (`Double.spelled`), or a name if it is infinite or no number.
    * **Scientific**: seven digits and an exponent, zeros at the end of the digits dropped
      (`Binary64.scientific`).

    Reading (`Double.read?`) admits blanks around the numeral and single underscores between its digits.
-/

namespace GraphLift

/-- A double, or what is no number. -/
inductive Double where
  | number (x : Binary64)
  | undefined
  deriving DecidableEq, Repr

namespace Binary64

/-- The exponent of ten and the digits of a positive fraction, rounded to a point and so many places. -/
def roundedDigits (places : Nat) (num den : Nat) : Nat × Int :=
  let binary : Int := (Nat.log2 num : Int) - Nat.log2 den - 1
  let leading := decimalExponent num den (binary * 30103 / 100000 - 2) 6
  let power := leading - places
  let digits :=
    if power ≥ 0 then roundQuotient num (den * Nat.pow 10 power.toNat)
    else roundQuotient (num * Nat.pow 10 (-power).toNat) den
  if digits = Nat.pow 10 (places + 1) then (Nat.pow 10 places, leading + 1) else (digits, leading)

/-- A digit, a point with places if any of them is not zero, and an exponent of at least two digits. -/
def scientificChars (digits : Nat) (leading : Int) : List Char :=
  let mantissa := match Nat.toDigits 10 digits with
    | [] => []
    | d :: places =>
      match (places.reverse.dropWhile (· == '0')).reverse with
      | [] => [d]
      | kept => d :: '.' :: kept
  let size := Nat.toDigits 10 leading.natAbs
  mantissa ++ ['e', if leading < 0 then '-' else '+'] ++ zeros (2 - size.length) ++ size

/-- The text of a finite double with seven digits. -/
def scientific (negative : Bool) (significand : Nat) (exponent : Int) : String :=
  let (digits, leading) : Nat × Int :=
    if significand = 0 then (0, 0)
    else
      let (num, den) := scaled significand exponent
      roundedDigits 6 num den
  String.ofList ((if negative then ['-'] else []) ++ scientificChars digits leading)

end Binary64

namespace Double

/-- The shortest text of a double in a spelling. -/
def spelled (s : Binary64.Spelling) : Double → String
  | .number x => s.text x
  | .undefined => s.undefined

/-- How doubles are spelled in literals. -/
def spelling : Binary64.Spelling := ⟨-4, 16, "inf", "nan"⟩

/-- The text of a double in a literal. -/
def text (x : Double) : String :=
  x.spelled spelling

/-- The text without underscores, each of which must stand between two digits; `afterDigit` says that a digit
    stands right before. -/
def withoutUnderscores? (afterDigit : Bool) : List Char → Option (List Char)
  | [] => some []
  | '_' :: c :: r =>
    if afterDigit && Text.isDigit c then (withoutUnderscores? true r).map (c :: ·) else none
  | ['_'] => none
  | c :: r => (withoutUnderscores? (Text.isDigit c) r).map (c :: ·)

/-- The double nearest to what a numeral writes. -/
def ofNumeral? : Numeral → Option Double
  | .finite d => some (.number (.ofDecimal d.negative d.digits d.power))
  | .infinite negative => some (.number (.infinite negative))
  | .undefined _ false [] => some .undefined
  | .undefined .. => none

/-- The double that a text writes. -/
def read? (s : String) : Option Double := do
  ofNumeral? (← Numeral.read? (← withoutUnderscores? false (Text.trimChars s.toList)))

end Double

end GraphLift
