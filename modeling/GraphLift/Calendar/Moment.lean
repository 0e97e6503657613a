import GraphLift.Calendar.Clock

/-! # Moments

    A moment is a date with a time of day. It is written as a date, any one character between them, and a time;
    the time may be missing and is midnight then.

    The character between them is found by the form of the date: `separatorPlace` says where it is.
-/

namespace GraphLift

/-- A date with a time of day. -/
structure Moment where
  date : Date
  time : ZonedClock
  deriving DecidableEq, Repr

namespace Moment

/-- The first place from seven on that holds no digit. -/
def firstNonDigit (s : List Char) : Nat :=
  7 + ((s.drop 7).takeWhile Text.isAsciiDigit).length

/-- Where a date in front of a time ends. -/
def separatorPlace (s : List Char) : Nat :=
  if s.length ≤ 7 then 7
  else if s[4]? = some '-' then
    if s[5]? != some 'W' then 10
    else if s[8]? != some '-' then 8
    else if (s[10]?).any Text.isAsciiDigit then 8
    else 10
  else if s[4]? != some 'W' then 8
  else
    let place := firstNonDigit s
    if place < 9 then place else if place % 2 = 0 then 7 else 8

/-- The moment that a text writes. -/
def read? (text : String) : Option Moment := do
  let s := text.toList
  let place := separatorPlace s
  let date ← Date.read? (s.take place)
  match s.drop place with
  | [] => return ⟨date, ⟨0, 0, 0, 0⟩, none⟩
  | _ :: r => do
    let (clock, offset) ← Clock.read? r
    return ⟨date, clock, offset⟩

/-- The text of a moment. -/
def text (m : Moment) : String :=
  m.date.text ++ "T" ++ m.time.text

/-- The place of a moment in universal time, in microseconds. -/
def instant (m : Moment) : Int :=
  m.date.dayNumber * (24 * 60 * 60 * Clock.secondLength : Nat) + m.time.clock.micros - m.time.offset.getD 0

end Moment

end GraphLift
