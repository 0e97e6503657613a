import GraphLift.Rdf.Term
import GraphLift.Rdf.TypedValue
import GraphLift.Text.Bytes

/-! # Datatypes of literals

    A datatype of the schema vocabulary gives the texts of its literals a value, and the value has one text, which
    is what a literal then holds.

    * **Whole numbers** are written in plain digits. The bounds of a datatype do not matter here; a number
      outside of them is ill typed.
    * **Decimal numbers** keep their digits but lose a plus sign, leading zeros and the exponent; **doubles** are
      written as shortly as possible.
    * **Truth values** are `true` for `true` and `1` in any letter case, and `false` for everything else.
    * **Dates** lose what is written of a time or an offset; **times**, **moments** and **spans** get their full
      form. **Bytes** are written in lower case, or in whole groups.
    * **Normalized strings** have spaces for tabs and line ends, **tokens** no spaces at the ends and single
      ones inside.

    A text that has no value for its datatype stays as it is, and so does any text of any other datatype.
-/

namespace GraphLift

namespace Datatype

/-- The datatypes that are known. -/
inductive Kind where
  /-- Whole numbers between two bounds. -/
  | whole (low high : Option Int)
  | decimal
  | double
  /-- Numbers of lower precision, which are kept as doubles all the same. -/
  | single
  | boolean
  | date
  | year
  | yearMonth
  | time
  | moment
  | span
  | hex
  | base64
  | normalizedString
  | token
  deriving DecidableEq, Repr

/-- The datatypes that are known, by their local names. -/
def kinds : List (String × Kind) := [
  ("integer", .whole none none),
  ("nonPositiveInteger", .whole none (some 0)),
  ("negativeInteger", .whole none (some (-1))),
  ("nonNegativeInteger", .whole (some 0) none),
  ("positiveInteger", .whole (some 1) none),
  ("long", .whole (some (-9223372036854775808)) (some 9223372036854775807)),
  ("int", .whole (some (-2147483648)) (some 2147483647)),
  ("short", .whole (some (-32768)) (some 32767)),
  ("byte", .whole (some (-128)) (some 127)),
  ("unsignedLong", .whole (some 0) (some 18446744073709551615)),
  ("unsignedInt", .whole (some 0) (some 4294967295)),
  ("unsignedShort", .whole (some 0) (some 65535)),
  ("unsignedByte", .whole (some 0) (some 255)),
  ("decimal", .decimal),
  ("double", .double),
  ("float", .single),
  ("boolean", .boolean),
  ("date", .date),
  ("gYear", .year),
  ("gYearMonth", .yearMonth),
  ("time", .time),
  ("dateTime", .moment),
  ("duration", .span),
  ("dayTimeDuration", .span),
  ("yearMonthDuration", .span),
  ("hexBinary", .hex),
  ("base64Binary", .base64),
  ("normalizedString", .normalizedString),
  ("token", .token)]

/-- The kind of a datatype that is known. -/
def kind? (datatype : String) : Option Kind :=
  (kinds.find? fun k => xsdNamespace ++ k.1 == datatype).map (·.2)

/-- A whole number lies between two bounds. -/
def isWithin (low high : Option Int) (n : Int) : Bool :=
  low.all (· ≤ n) && high.all (n ≤ ·)

/-! ## Dates -/

/-- The text without the letter Z at its end. -/
def dropZulu (s : List Char) : List Char :=
  match s.getLast? with
  | some 'Z' | some 'z' => s.dropLast
  | _ => s

/-- The text without an offset at its end: anything from a plus sign on, or a minus sign with five characters
    of which the third is a colon. A shorter text after a minus sign is refused. -/
def dropOffset? (s : List Char) : Option (List Char) :=
  let front := s.takeWhile (· != '+')
  if !front.isEmpty && front.length < s.length then some front
  else
    let tail := s.drop (s.length - 6)
    if tail.head? != some '-' then some s
    else (tail[3]?).map fun c => if c = ':' then s.dropLast.dropLast.dropLast.dropLast.dropLast.dropLast else s

/-- The date that a text writes; it may have a time or an offset, and must have a hyphen. -/
def readDate? (s : List Char) : Option Date := do
  let t := dropZulu s
  let front ← if t.contains 'T' then some (t.takeWhile (· != 'T')) else dropOffset? t
  let size := (String.ofList front).utf8ByteSize
  if front.contains '-' && (size = 7 || size = 8 || size = 10) then Date.read? front else none

/-- The year that a text of at least four characters writes. -/
def yearOf? (s : List Char) : Option Nat :=
  if s.length < 4 then none
  else (Text.readInteger? (String.ofList (s.dropWhile (· == '0')))).bind fun n =>
    if 1 ≤ n && n ≤ 9999 then some n.toNat else none

/-- The month that a text of at least two characters writes. -/
def monthOf? (s : List Char) : Option Nat :=
  if s.length < 2 then none
  else (Text.readInteger? (String.ofList (s.dropWhile (· == '0')))).bind fun n =>
    if 1 ≤ n && n ≤ 12 then some n.toNat else none

/-- The first day of the year that a text writes. -/
def readYear? (s : List Char) : Option Date :=
  if s.head? = some '-' then none
  else ((dropOffset? (dropZulu s)).bind yearOf?).map fun y => ⟨y, 1, 1⟩

/-- The first day of the year and month that a text writes; what follows a second hyphen does not count. -/
def readYearMonth? (s : List Char) : Option Date := do
  if s.head? = some '-' then none
  match (← dropOffset? (dropZulu s)).splitOn '-' with
  | year :: month :: _ => return ⟨← yearOf? year, ← monthOf? month, 1⟩
  | _ => none

/-! ## Strings -/

/-- Tabs and line ends become spaces. -/
def spaceOut (s : List Char) : List Char :=
  s.map fun c => if c = '\t' || c = '\n' || c = '\r' then ' ' else c

/-- Single spaces for runs of spaces. -/
def collapse : List Char → List Char
  | [] => []
  | [c] => [c]
  | c :: d :: rest => if c = ' ' && d = ' ' then collapse (d :: rest) else c :: collapse (d :: rest)

/-! ## Values -/

/-- The truth value that a text writes: no text is refused. -/
def readTruth (s : String) : Bool :=
  let t := s.toList.map Char.toLower
  t = "true".toList || t = ['1']

/-- The value of a text. -/
def Kind.read? (k : Kind) (s : String) : Option TypedValue :=
  match k with
  | .whole .. => (Text.readInteger? s).map .whole
  | .decimal => (Numeral.readDecimal? s).map .decimal
  | .double | .single => (Double.read? s).map .double
  | .boolean => some (.truth (readTruth s))
  | .date => (readDate? s.toList).map .day
  | .year => (readYear? s.toList).map .day
  | .yearMonth => (readYearMonth? s.toList).map .day
  | .time => (ZonedClock.read? s).map .time
  | .moment => (Moment.read? s).map .moment
  | .span => (Span.read? s).map .span
  | .hex => (Text.readHex? s.toList).map .bytes
  | .base64 => (Text.readBase64? s.toList).map .bytes
  | .normalizedString | .token => none

/-- The text of a day, as much of it as a kind has. -/
def Kind.dayText (k : Kind) (d : Date) : String :=
  match k with
  | .year => Date.padded 4 d.year
  | .yearMonth => Date.padded 4 d.year ++ "-" ++ Date.padded 2 d.month
  | _ => d.text

/-- The text of a value. -/
def Kind.write (k : Kind) : TypedValue → String
  | .whole n => toString n
  | .decimal n => n.text
  | .double x => x.text
  | .truth b => if b then "true" else "false"
  | .day d => k.dayText d
  | .time c => c.text
  | .moment m => m.text
  | .span s => s.text
  | .bytes b => if k = .hex then Text.writeHex b else Text.writeBase64 b

/-- The text that a literal of a kind holds. -/
def Kind.normalize (k : Kind) (s : String) : String :=
  match k with
  | .normalizedString => String.ofList (spaceOut s.toList)
  | .token => String.ofList (collapse (Text.trimChars (spaceOut s.toList)))
  | k => ((k.read? s).map k.write).getD s

/-- The text that a literal of a datatype holds. -/
def normalize (datatype text : String) : String :=
  match kind? datatype with
  | some k => k.normalize text
  | none => text

/-- Numbers of this kind take part in the order of all numbers. -/
def Kind.isNumeric : Kind → Bool
  | .whole .. | .decimal | .double | .single => true
  | _ => false

/-- A value keeps the bounds of its kind. -/
def Kind.admits : Kind → TypedValue → Bool
  | .whole low high, .whole n => isWithin low high n
  | _, _ => true

end Datatype

namespace Literal

/-- The kind of a literal's datatype, if that is known. -/
def kind? (l : Literal) : Option Datatype.Kind :=
  match l.annotation with
  | .datatype d => Datatype.kind? d
  | _ => none

/-- The value of a literal of a datatype that gives values to texts. -/
def value? (l : Literal) : Option TypedValue :=
  l.kind?.bind (·.read? l.text)

/-- The value of a literal that is a number and keeps the bounds of its datatype. -/
def number? (l : Literal) : Option TypedValue :=
  (l.kind?.filter (·.isNumeric)).bind fun k => (k.read? l.text).filter k.admits

/-- The literal counts as nothing: its value does, or its text is empty if it has none. -/
def isNothing (l : Literal) : Bool :=
  match l.value? with
  | some v => v.isNothing
  | none => l.text = ""

end Literal

end GraphLift
