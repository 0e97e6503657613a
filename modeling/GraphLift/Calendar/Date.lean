import GraphLift.Text.Numeral

/-! # Dates

    A date is a day of one of the years 1 to 9999.

    * **Day numbers** count the days from the first day of the year 1, which has the number 1.
    * **Written forms**: year, month and day; or year, week and day of the week, where the day may be left out.
      The parts have a fixed number of digits, and hyphens stand between all of them or none.
-/

namespace GraphLift

/-- A day. -/
structure Date where
  year : Nat
  month : Nat
  day : Nat
  deriving DecidableEq, Repr

namespace Date

/-! ## Counting days -/

/-- A year with a day more. -/
def isLeap (year : Nat) : Bool :=
  year % 4 = 0 && (year % 100 != 0 || year % 400 = 0)

/-- The lengths of the months of a year. -/
def monthLengths (year : Nat) : List Nat :=
  [31, if isLeap year then 29 else 28, 31, 30, 31, 30, 31, 31, 30, 31, 30, 31]

/-- The number of days in the years before a year. -/
def daysBefore (year : Nat) : Nat :=
  let y := year - 1
  365 * y + y / 4 - y / 100 + y / 400

/-- The date exists. -/
def isValid (d : Date) : Bool :=
  1 ≤ d.year && d.year ≤ 9999 && 1 ≤ d.month && 1 ≤ d.day
    && ((monthLengths d.year)[d.month - 1]?).any (d.day ≤ ·)

/-- The number of a day. -/
def dayNumber (d : Date) : Nat :=
  daysBefore d.year + ((monthLengths d.year).take (d.month - 1)).foldr (· + ·) 0 + d.day

/-- The month and the day in it of a day counted from the start of the first of some months. -/
def findMonth (month count : Nat) : List Nat → Nat × Nat
  | [] => (month, count)
  | n :: rest => if count ≤ n then (month, count) else findMonth (month + 1) (count - n) rest

/-- The day of a year with a given place in it. -/
def ofYearDay (year count : Nat) : Date :=
  let (month, day) := findMonth 1 count (monthLengths year)
  ⟨year, month, day⟩

/-- The length of a year. -/
def yearLength (year : Nat) : Nat :=
  if isLeap year then 366 else 365

/-! ## Weeks -/

/-- The weekday of the first day of a year, where Monday is 0. -/
def firstWeekday (year : Nat) : Nat :=
  (daysBefore year) % 7

/-- A year has 53 weeks instead of 52. -/
def hasLongWeekYear (year : Nat) : Bool :=
  firstWeekday year = 3 || (firstWeekday year = 2 && isLeap year)

/-- The day of a week of a year. Weeks start on Monday; the first week has the first Thursday. -/
def ofWeek? (year week day : Nat) : Option Date :=
  if week = 0 || day = 0 || day > 7 || week > 53 || (week = 53 && !hasLongWeekYear year) then none
  else
    let w := firstWeekday year
    let place : Int := (week - 1 : Nat) * 7 + day - w + (if w > 3 then 7 else 0)
    if place < 1 then some (ofYearDay (year - 1) (place + yearLength (year - 1)).toNat)
    else if place > yearLength year then some (ofYearDay (year + 1) (place - yearLength year).toNat)
    else some (ofYearDay year place.toNat)

/-! ## Text -/

/-- Reads a number of so many basic Latin digits. -/
def digits? (count : Nat) (s : List Char) : Option (Nat × List Char) :=
  let front := s.take count
  if front.length = count && front.all Text.isAsciiDigit then some (Text.readDigits 0 front, s.drop count) else none

/-- Reads the hyphen that is due if hyphens are used. -/
def hyphen? (dashed : Bool) (s : List Char) : Option (List Char) :=
  match dashed, s with
  | false, s => some s
  | true, '-' :: r => some r
  | true, _ => none

/-- The date that a text writes, whether it exists or not. What follows the day of a week does not count. -/
def parts? (s : List Char) : Option Date := do
  let (year, r) ← digits? 4 s
  let dashed := r.head? = some '-'
  let r ← hyphen? dashed r
  match r with
  | 'W' :: r => do
    let (week, r) ← digits? 2 r
    if r.isEmpty then ofWeek? year week 1
    else do
      let (day, _) ← digits? 1 (← hyphen? dashed r)
      ofWeek? year week day
  | r => do
    let (month, r) ← digits? 2 r
    let (day, r) ← digits? 2 (← hyphen? dashed r)
    if r.isEmpty then some ⟨year, month, day⟩ else none

/-- The date that a text writes. -/
def read? (s : List Char) : Option Date :=
  (parts? s).filter isValid

/-- A number with zeros in front up to a width. -/
def padded (width n : Nat) : String :=
  let digits := Nat.toDigits 10 n
  String.ofList (List.replicate (width - digits.length) '0' ++ digits)

/-- The text of a date. -/
def text (d : Date) : String :=
  padded 4 d.year ++ "-" ++ padded 2 d.month ++ "-" ++ padded 2 d.day

end Date

end GraphLift
