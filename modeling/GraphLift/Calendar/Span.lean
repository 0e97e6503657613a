import GraphLift.Calendar.Moment
import GraphLift.Number.Decimal
import GraphLift.Number.Binary64

/-! # Spans of time

    A span has months, which have no fixed length, and microseconds.

    * **Written forms**: a sign, the letter P, then years, months, weeks and days, then the letter T with hours,
      minutes and seconds. Every part may be missing, and may have a fraction.
    * **Another form** is the letter P and a moment, whose numbers are those of the span.
    * **Fractions** of parts with a fixed length are doubles, and microseconds are rounded once, at the end.
    * **The text** of a span has whole years, and days where there are enough hours.
-/

namespace GraphLift

/-- A span of time: months, given as a number of `10 ^ places`-th parts, and microseconds. A span that was
    written with neither years nor months is plain. -/
structure Span where
  months : Int
  places : Nat
  micros : Int
  plain : Bool
  deriving DecidableEq, Repr

namespace Span

/-! ## Reading -/

/-- The digits before and after the mark of a number. -/
abbrev Amount := List Char × List Char

/-- Reads a number with a fraction after a point or a comma, and the letter after it. -/
def amount? (letter : Char) (s : List Char) : Option (Amount × List Char) :=
  let whole := s.takeWhile Text.isAsciiDigit
  if whole.isEmpty then none
  else match s.dropWhile Text.isAsciiDigit with
    | c :: r =>
      if c = letter then some ((whole, []), r)
      else if c = '.' || c = ',' then
        let places := r.takeWhile Text.isAsciiDigit
        match places.isEmpty, r.dropWhile Text.isAsciiDigit with
        | false, d :: t => if d = letter then some ((whole, places), t) else none
        | _, _ => none
      else none
    | [] => none

/-- Reads parts in the order of their letters; a part that is missing is nothing. -/
def amounts : List Char → List Char → List Amount × List Char
  | [], s => ([], s)
  | letter :: rest, s =>
    match amount? letter s with
    | some (a, r) =>
      let (more, t) := amounts rest r
      (a :: more, t)
    | none =>
      let (more, t) := amounts rest s
      (([], []) :: more, t)

/-- A number as one of parts of a power of ten. -/
def Amount.scaled (places : Nat) (a : Amount) : Nat :=
  Text.readDigits 0 (a.1 ++ a.2) * Nat.pow 10 (places - a.2.length)

/-! ## Parts of a fixed length -/

/-- Whole microseconds and a fraction of one. -/
structure Ticks where
  whole : Nat
  num : Nat
  den : Nat

/-- The fraction of a double that is finite. -/
def fractionOf : Binary64 → Nat × Nat
  | .finite _ m e => Binary64.scaled m e
  | .infinite _ => (0, 1)

/-- Adds a number of parts of so many microseconds, unless it is too large for a double. The fraction of a part
    and the sum of the fractions of a microsecond are doubles. -/
def Ticks.add? (t : Ticks) (length : Nat) (a : Amount) : Option Ticks :=
  match Binary64.ofDecimal false (Text.readDigits 0 (a.1 ++ a.2)) (-(a.2.length : Int)) with
  | .infinite _ => none
  | .finite _ m e =>
    let (n, d) := Binary64.scaled m e
    let (p, q) := fractionOf (Binary64.ofRatio false (n % d * length) d)
    let (num, den) := fractionOf (Binary64.ofRatio false (t.num * q + p % q * t.den) (t.den * q))
    some ⟨t.whole + n / d * length + p / q, num, den⟩

/-- The number of microseconds in a day. -/
def dayLength : Nat := 24 * 60 * 60 * Clock.secondLength

/-- The microseconds of seconds, minutes, hours, days and weeks, unless they are too many. -/
def micros? (seconds minutes hours days weeks : Amount) : Option Nat := do
  let t ← Ticks.add? ⟨0, 0, 1⟩ Clock.secondLength seconds
  let t ← t.add? (60 * Clock.secondLength) minutes
  let t ← t.add? (60 * 60 * Clock.secondLength) hours
  let t ← t.add? dayLength days
  let t ← t.add? (7 * dayLength) weeks
  let n := Binary64.roundQuotient (t.whole * t.den + t.num) t.den
  if n / dayLength ≤ 999999999 then some n else none

/-! ## Whole spans -/

/-- The letter T and what is written after it. -/
def clockAmounts (s : List Char) : List Amount × List Char :=
  match s with
  | 'T' :: r => amounts ['H', 'M', 'S'] r
  | s => ([], s)

/-- The text without a line feed at its end. -/
def dropLineFeed (s : List Char) : List Char :=
  if s.getLast? = some '\n' then s.dropLast else s

/-- Reads a span in its usual form. -/
def usual? (s : List Char) : Option Span :=
  let (negative, t) := Text.splitSign (dropLineFeed s)
  match t with
  | 'P' :: c :: r => do
    let (first, u) := amounts ['Y', 'M', 'W', 'D'] (c :: r)
    let (second, v) := clockAmounts u
    if !v.isEmpty then none
    else
      let part (xs : List Amount) (i : Nat) : Amount := xs.getD i ([], [])
      let years := part first 0
      let months := part first 1
      let n ← micros? (part second 2) (part second 1) (part second 0) (part first 3) (part first 2)
      let places := max years.2.length months.2.length
      let total : Nat := years.scaled places * 12 + months.scaled places
      let sign : Int := if negative then -1 else 1
      return ⟨sign * total, places, sign * n, total = 0⟩
  | _ => none

/-- Reads a span that is written as a moment. -/
def ofMoment? (s : List Char) : Option Span :=
  match s with
  | 'P' :: r => do
    let m ← Moment.read? (String.ofList r)
    return ⟨m.date.year * 12 + m.date.month, 0, m.date.day * dayLength + m.time.clock.micros, false⟩
  | _ => none

/-- The span that a text writes. -/
def read? (s : String) : Option Span :=
  (usual? s.toList).or (ofMoment? s.toList)

/-! ## Text -/

/-- A number and its letter, unless the number is zero. -/
def component (n : Nat) (letter : String) : String :=
  if n = 0 then "" else toString n ++ letter

/-- The years and the months that are left, with their fraction. -/
def monthsText (s : Span) : String :=
  let unit := Nat.pow 10 s.places
  let left := s.months.natAbs % (12 * unit)
  component (s.months.natAbs / (12 * unit)) "Y"
    ++ if left = 0 then "" else Decimal.text ⟨false, left, -(s.places : Int)⟩ ++ "M"

/-- The seconds with their fraction, unless both are zero. -/
def secondsText (seconds micro : Nat) : String :=
  if micro = 0 then component seconds "S"
  else
    let places := ((Date.padded 6 micro).toList.reverse.dropWhile (· == '0')).reverse
    toString seconds ++ "." ++ String.ofList places ++ "S"

/-- The hours, minutes and seconds. -/
def clockText (n : Nat) : String :=
  let seconds := n / Clock.secondLength
  component (seconds / 3600 % 24) "H" ++ component (seconds / 60 % 60) "M"
    ++ secondsText (seconds % 60) (n % Clock.secondLength)

/-- The text of a span. -/
def text (s : Span) : String :=
  let n := s.micros.natAbs
  let body := s.monthsText ++ component (n / dayLength) "D"
    ++ if n % dayLength = 0 then "" else "T" ++ clockText n
  if body = "" then "P0D" else (if s.months < 0 || s.micros < 0 then "-P" else "P") ++ body

/-! ## Order -/

/-- The order of two spans without years and months; others have none. -/
def order? (s t : Span) : Option Ordering :=
  if s.plain && t.plain then some (compare s.micros t.micros) else none

/-- Two spans have the same length. -/
def same (s t : Span) : Bool :=
  s.months * Nat.pow 10 t.places == t.months * Nat.pow 10 s.places && s.micros == t.micros

end Span

end GraphLift
