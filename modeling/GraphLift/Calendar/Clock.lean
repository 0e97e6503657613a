import GraphLift.Calendar.Date

/-! # Times of day

    A time of day has microseconds and perhaps an offset from universal time.

    * **Written forms**: hours, then perhaps minutes and seconds, with colons between all of them or none, then
      perhaps a fraction after a point or a comma. It is a fraction of a second also if the seconds are missing,
      and its digits after the sixth do not count.
    * **Offsets** are written after a plus or a minus sign in the same forms, or as the letter Z.
-/

namespace GraphLift

/-- A time of day. -/
structure Clock where
  hour : Nat
  minute : Nat
  second : Nat
  micro : Nat
  deriving DecidableEq, Repr

namespace Clock

/-- The number of microseconds in a second. -/
def secondLength : Nat := 1000000

/-- The number of microseconds since the day began. -/
def micros (c : Clock) : Nat :=
  ((c.hour * 60 + c.minute) * 60 + c.second) * secondLength + c.micro

/-- The time exists. -/
def isValid (c : Clock) : Bool :=
  c.hour < 24 && c.minute < 60 && c.second < 60

/-! ## Reading -/

/-- How the fields of a time end: all of the text is read, perhaps but for something that is left over, or a
    fraction follows. -/
inductive Tail where
  | done (leftover : Bool)
  | fraction (s : List Char)

/-- Reads so many fields at most. `more` says that something follows the text, `separated` whether colons are
    used, if that is known. -/
def fields? (more : Bool) (separated : Option Bool) : (count : Nat) → List Char → Option (List Nat × Tail)
  | 0, s => some ([], .fraction s)
  | count + 1, s => do
    let (n, r) ← Date.digits? 2 s
    match r with
    | [] => return ([n], .done more)
    | [c] => if c.toNat < 128 then return ([n], .done true) else none
    | c :: r =>
      let colons := separated.getD (c = ':')
      if colons && c = ':' then do
        let (ns, t) ← fields? more (some colons) count r
        return (n :: ns, t)
      else if c = '.' || c = ',' then return ([n], .fraction r)
      else if colons then none
      else do
        let (ns, t) ← fields? more (some colons) count (c :: r)
        return (n :: ns, t)

/-- Reads a fraction as microseconds, and says whether something is left over. -/
def fraction? (more : Bool) (s : List Char) : Option (Nat × Bool) := do
  let places := min 6 s.length
  let (n, r) ← Date.digits? places s
  return (n * Nat.pow 10 (6 - places), more || !(r.dropWhile Text.isAsciiDigit).isEmpty)

/-- Reads a time without offset, and says whether something is left over. -/
def plain? (more : Bool) (s : List Char) : Option (Clock × Bool) := do
  let (ns, t) ← fields? more none 3 s
  let (micro, leftover) ← match t with
    | .done leftover => some (0, leftover)
    | .fraction r => fraction? more r
  return (⟨ns.getD 0 0, ns.getD 1 0, ns.getD 2 0, micro⟩, leftover)

/-- Starts an offset. -/
def startsOffset (c : Char) : Bool :=
  c = '+' || c = '-' || c = 'Z'

/-- The offset in microseconds that a text writes, which must be shorter than a day; nothing is no offset, and
    less than a second is an offset of zero. -/
def offset? (s : List Char) : Option (Option Int) :=
  match s with
  | [] => some none
  | ['Z'] => some (some 0)
  | 'Z' :: _ => none
  | sign :: r => do
    let (c, leftover) ← plain? false r
    if leftover || c.micros ≥ 24 * 60 * 60 * secondLength then none
    else if c.micros < secondLength then return some 0
    else
      let n : Int := c.micros
      return some (if sign = '-' then -n else n)

/-- The time that a text writes, and its offset in microseconds. -/
def read? (s : List Char) : Option (Clock × Option Int) := do
  let zone := s.dropWhile (!startsOffset ·)
  let (c, leftover) ← plain? (!zone.isEmpty) (s.takeWhile (!startsOffset ·))
  if leftover && zone.isEmpty then none
  else if !c.isValid then none
  else return (c, ← offset? zone)

/-! ## Text -/

/-- The text of a time without offset. -/
def text (c : Clock) : String :=
  Date.padded 2 c.hour ++ ":" ++ Date.padded 2 c.minute ++ ":" ++ Date.padded 2 c.second
    ++ if c.micro = 0 then "" else "." ++ Date.padded 6 c.micro

/-- The text of an offset: hours and minutes, and what is left if that is not zero. -/
def offsetText : Option Int → String
  | none => ""
  | some n =>
    let size := n.natAbs
    let seconds := size / secondLength
    let micro := size % secondLength
    (if n < 0 then "-" else "+") ++ Date.padded 2 (seconds / 3600) ++ ":" ++ Date.padded 2 (seconds / 60 % 60)
      ++ (if seconds % 60 = 0 && micro = 0 then "" else ":" ++ Date.padded 2 (seconds % 60))
      ++ if micro = 0 then "" else "." ++ Date.padded 6 micro

end Clock

/-- A time of day with an offset from universal time, if that is known. -/
structure ZonedClock where
  clock : Clock
  offset : Option Int
  deriving DecidableEq, Repr

namespace ZonedClock

/-- The time that a text writes, which may start with the letter T. -/
def read? (s : String) : Option ZonedClock :=
  let cs := match s.toList with
    | 'T' :: r => r
    | cs => cs
  (Clock.read? cs).map fun p => ⟨p.1, p.2⟩

/-- The text of a time. -/
def text (c : ZonedClock) : String :=
  c.clock.text ++ Clock.offsetText c.offset

/-- The place of a time in universal time, in microseconds; parts of a second in an offset do not count. -/
def instant (c : ZonedClock) : Int :=
  c.clock.micros - (c.offset.getD 0) / Clock.secondLength * Clock.secondLength

end ZonedClock

end GraphLift
