/-! # Double precision numbers, exactly

    A finite double is `significand * 2 ^ exponent` with a sign. All arithmetic is on whole numbers, so that
    reading and writing can be reasoned about.

    * **Reading** (`ofDecimal`): a decimal numeral becomes the nearest double; a tie goes to the even
      significand, and what is too large becomes infinite.
    * **Writing** (`shortest`): the fewest decimal digits that read back; of two such numerals the nearer one,
      and of two equally near the one whose last digit is even.
    * **Comparing** (`compareInt`, `compare`): by exact value.
-/

namespace GraphLift

/-- A double: infinite, or a sign with a significand below `2 ^ 53` scaled by a power of two. -/
inductive Binary64 where
  | finite (negative : Bool) (significand : Nat) (exponent : Int)
  | infinite (negative : Bool)
  deriving DecidableEq, Repr

namespace Binary64

/-- The smallest significand of a double that is not among the smallest. -/
def normalSignificand : Nat := 0x10000000000000

/-- The exponent of the smallest doubles. -/
def minExponent : Int := -1074

/-- The exponent of the largest doubles. -/
def maxExponent : Int := 971

/-- `n * 2 ^ e` as a fraction. -/
def scaled (n : Nat) (e : Int) : Nat × Nat :=
  if e ≥ 0 then (n * Nat.pow 2 e.toNat, 1) else (n, Nat.pow 2 (-e).toNat)

/-- The quotient of two numbers rounded to the nearest whole number, a tie to the even one. -/
def roundQuotient (num den : Nat) : Nat :=
  let q := num / den
  let twice := 2 * (num % den)
  if twice < den then q
  else if twice > den then q + 1
  else if q % 2 = 0 then q else q + 1

/-- The double nearest to `num / den`. -/
def ofRatio (negative : Bool) (num den : Nat) : Binary64 :=
  if num = 0 then .finite negative 0 minExponent
  else
    let guess : Int := (Nat.log2 num : Int) - Nat.log2 den - 52
    let fits (e : Int) : Bool :=
      if e ≥ 0 then num ≥ normalSignificand * (den * Nat.pow 2 e.toNat)
      else num * Nat.pow 2 (-e).toNat ≥ normalSignificand * den
    let normal := if fits guess then guess else guess - 1
    let e := max minExponent normal
    let m := if e ≥ 0 then roundQuotient num (den * Nat.pow 2 e.toNat)
      else roundQuotient (num * Nat.pow 2 (-e).toNat) den
    let (m, e) := if m = 2 * normalSignificand then (normalSignificand, e + 1) else (m, e)
    if e > maxExponent then .infinite negative else .finite negative m e

/-- The double nearest to `digits * 10 ^ power`. Powers far outside the range of doubles are not computed. -/
def ofDecimal (negative : Bool) (digits : Nat) (power : Int) : Binary64 :=
  let size : Int := Nat.log2 digits
  if digits = 0 || (power < 0 && size + 1 + 3 * power < -1080) then .finite negative 0 minExponent
  else if power > 400 then .infinite negative
  else if power ≥ 0 then ofRatio negative (digits * Nat.pow 10 power.toNat) 1
  else ofRatio negative digits (Nat.pow 10 (-power).toNat)

/-! ## Shortest digits -/

/-- The largest `k` between `low` and `low + room` with `10 ^ k * den ≤ num`, for fractions at least
    `10 ^ low`. -/
def decimalExponent (num den : Nat) (low : Int) : Nat → Int
  | 0 => low
  | room + 1 =>
    let next := low + 1
    let reaches := if next ≥ 0 then Nat.pow 10 next.toNat * den ≤ num else den ≤ num * Nat.pow 10 (-next).toNat
    if reaches then decimalExponent num den next room else low

/-- Whether `digits * 10 ^ power` lies between two fractions; `closed` adds the ends. -/
def liesBetween (closed : Bool) (low high : Nat × Nat) (digits : Nat) (power : Int) : Bool :=
  let (n, d) := if power ≥ 0 then (digits * Nat.pow 10 power.toNat, 1) else (digits, Nat.pow 10 (-power).toNat)
  let below := low.1 * d
  let mid := n * low.2
  let mid' := n * high.2
  let above := high.1 * d
  if closed then below ≤ mid && mid' ≤ above else below < mid && mid' < above

/-- The digits and power of ten of the numeral with `count` digits or more, `rest` counts to go, that reads
    back as the value `num / den`. -/
def shortestFrom (closed : Bool) (low high : Nat × Nat) (num den : Nat) (leading : Int) (count : Nat) :
    Nat → Nat × Int
  | 0 => (0, 0)
  | rest + 1 =>
    let power := leading - count + 1
    let (n, d) := if power ≥ 0 then (num, den * Nat.pow 10 power.toNat) else (num * Nat.pow 10 (-power).toNat, den)
    let down := n / d
    let fitsDown := liesBetween closed low high down power
    let fitsUp := liesBetween closed low high (down + 1) power
    if fitsDown && fitsUp then (roundQuotient n d, power)
    else if fitsDown then (down, power)
    else if fitsUp then (down + 1, power)
    else shortestFrom closed low high num den leading (count + 1) rest

/-- The shortest numeral of a positive double, as digits and a power of ten. -/
def shortest (significand : Nat) (exponent : Int) : Nat × Int :=
  let (num, den) := scaled significand exponent
  let step : Nat := if significand = normalSignificand && exponent > minExponent then 1 else 2
  let low := scaled (4 * significand - step) (exponent - 2)
  let high := scaled (4 * significand + 2) (exponent - 2)
  let binary : Int := (Nat.log2 num : Int) - Nat.log2 den - 1
  let leading := decimalExponent num den (binary * 30103 / 100000 - 2) 6
  shortestFrom (significand % 2 == 0) low high num den leading 1 17

/-- Drops zeros from the end of a numeral's digits. -/
def dropZeros (digits : Nat) (power : Int) : Nat → Nat × Int
  | 0 => (digits, power)
  | room + 1 =>
    if digits ≠ 0 && digits % 10 = 0 then dropZeros (digits / 10) (power + 1) room else (digits, power)

/-! ## Text -/

/-- How doubles are spelled. -/
structure Spelling where
  /-- The least decimal exponent written without an exponent. -/
  leastPlain : Int
  /-- The first decimal exponent that is written with an exponent again. -/
  firstScientific : Int
  /-- The name of the infinite value. -/
  infinity : String
  /-- The name of what is no number. -/
  undefined : String

/-- A run of zeros. -/
def zeros (n : Nat) : List Char := List.replicate n '0'

/-- The unsigned text of `digits * 10 ^ power`, where the digits do not end in zero. A plain numeral has at
    least one digit on both sides of the point; an exponent has a sign and at least two digits. -/
def Spelling.numeral (s : Spelling) (digits : Nat) (power : Int) : List Char :=
  let ds := Nat.toDigits 10 digits
  let leading : Int := power + ds.length - 1
  if leading < s.leastPlain || leading ≥ s.firstScientific then
    let mantissa := match ds with
      | [] => []
      | [d] => [d]
      | d :: more => d :: '.' :: more
    let size := Nat.toDigits 10 leading.natAbs
    mantissa ++ ['e', if leading < 0 then '-' else '+'] ++ zeros (2 - size.length) ++ size
  else if power ≥ 0 then ds ++ zeros power.toNat ++ ['.', '0']
  else if leading ≥ 0 then
    let whole := leading.toNat + 1
    ds.take whole ++ '.' :: ds.drop whole
  else ['0', '.'] ++ zeros (-leading - 1).toNat ++ ds

/-- The text of a double: the shortest numeral that reads back. -/
def Spelling.text (s : Spelling) : Binary64 → String
  | .infinite negative => (if negative then "-" else "") ++ s.infinity
  | .finite negative m e =>
    let body := if m = 0 then ['0', '.', '0'] else
      let (digits, power) := shortest m e
      let (digits, power) := dropZeros digits power 20
      s.numeral digits power
    String.ofList ((if negative then ['-'] else []) ++ body)

/-! ## Order -/

/-- The numerator of a signed fraction. -/
def signed (negative : Bool) (n : Nat) : Int := if negative then -(n : Int) else n

/-- Compares by value. -/
def compare : Binary64 → Binary64 → Ordering
  | .infinite a, .infinite b => if a = b then .eq else if a then .lt else .gt
  | .infinite a, .finite _ _ _ => if a then .lt else .gt
  | .finite _ _ _, .infinite b => if b then .gt else .lt
  | .finite a m e, .finite b n f =>
    let (p, q) := scaled m e
    let (r, t) := scaled n f
    Ord.compare (signed a p * t) (signed b r * q)

/-- Compares a whole number with a double by value. -/
def compareInt (i : Int) : Binary64 → Ordering
  | .infinite b => if b then .gt else .lt
  | .finite b n f =>
    let (r, t) := scaled n f
    Ord.compare (i * t) (signed b r)

end Binary64

end GraphLift
