import GraphLift.Calendar.Span
import GraphLift.Number.Double
import GraphLift.Report.Failure

/-! # Values of literals

    What the text of a literal with a datatype means.

    * **Numbers** of all datatypes are compared exactly. What is no number is neither above nor below a double;
      to ask for its place among decimal numbers is a failure.
    * **Times** without an offset come before those with one. **Spans** with years or months have no order.
-/

namespace GraphLift

/-- What a literal means. -/
inductive TypedValue where
  | whole (n : Int)
  | decimal (n : Numeral)
  | double (x : Double)
  | truth (b : Bool)
  | day (d : Date)
  | time (c : ZonedClock)
  | moment (m : Moment)
  | span (s : Span)
  | bytes (b : List Nat)

/-- The exact size of a number. -/
inductive Quantity where
  | ratio (num : Int) (den : Nat)
  | infinite (negative : Bool)
  | undefined
  deriving DecidableEq, Repr

namespace Quantity

/-- A fraction with a sign. -/
def signed (negative : Bool) (p : Nat × Nat) : Quantity :=
  .ratio (Binary64.signed negative p.1) p.2

/-- The size of a decimal number. -/
def ofDecimal (d : Decimal) : Quantity :=
  signed d.negative
    (if d.power ≥ 0 then (d.digits * Nat.pow 10 d.power.toNat, 1) else (d.digits, Nat.pow 10 (-d.power).toNat))

/-- The size of what a numeral writes. -/
def ofNumeral : Numeral → Quantity
  | .finite d => ofDecimal d
  | .infinite negative => .infinite negative
  | .undefined .. => .undefined

/-- The size of a double. -/
def ofDouble : Double → Quantity
  | .number (.finite negative m e) => signed negative (Binary64.scaled m e)
  | .number (.infinite negative) => .infinite negative
  | .undefined => .undefined

/-- The order of two sizes; an undefined one has none. -/
def order? : Quantity → Quantity → Option Ordering
  | .undefined, _ | _, .undefined => none
  | .infinite a, .infinite b => some (if a = b then .eq else if a then .lt else .gt)
  | .infinite a, .ratio .. => some (if a then .lt else .gt)
  | .ratio .., .infinite b => some (if b then .gt else .lt)
  | .ratio a p, .ratio b q => some (compare (a * q) (b * p))

end Quantity

namespace TypedValue

/-- The size of a number. -/
def quantity? : TypedValue → Option Quantity
  | .whole n => some (.ratio n 1)
  | .decimal n => some (.ofNumeral n)
  | .double x => some (.ofDouble x)
  | _ => none

/-- The value is of a decimal datatype. -/
def isDecimal : TypedValue → Bool
  | .decimal _ => true
  | _ => false

/-- Compares runs of bytes as words. -/
def compareBytes : List Nat → List Nat → Ordering
  | [], [] => .eq
  | [], _ => .lt
  | _, [] => .gt
  | a :: as, b :: bs => (compare a b).then (compareBytes as bs)

/-- Compares instants, those without an offset first. -/
def compareInstants (a b : Option Int) (s t : Int) : Ordering :=
  (compare a.isSome.toNat b.isSome.toNat).then (compare s t)

/-- The order of two values that are no numbers; values of different kinds have none. -/
def order? : TypedValue → TypedValue → Option Ordering
  | .truth a, .truth b => some (compare a.toNat b.toNat)
  | .day a, .day b => some (compare a.dayNumber b.dayNumber)
  | .time a, .time b => some (compareInstants a.offset b.offset a.instant b.instant)
  | .moment a, .moment b => some (compareInstants a.time.offset b.time.offset a.instant b.instant)
  | .span a, .span b => a.order? b
  | .bytes a, .bytes b => some (compareBytes a b)
  | _, _ => none

/-- Whether the first value is above the second; `none` if they have no order at all. -/
def exceeds (v w : TypedValue) : Except Failure (Option Bool) :=
  match v.quantity?, w.quantity? with
  | some a, some b =>
    match a.order? b with
    | some o => .ok (some (o == .gt))
    | none => if v.isDecimal || w.isDecimal then .error (.shape .noOrder) else .ok (some false)
  | _, _ => .ok ((v.order? w).map (· == .gt))

/-- Two values are equal. -/
def same (v w : TypedValue) : Bool :=
  match v.quantity?, w.quantity? with
  | some a, some b => a.order? b == some .eq
  | _, _ =>
    match v, w with
    | .span a, .span b => a.same b
    | _, _ => v.order? w == some .eq

/-- The value counts as nothing: zero, false, no time or no bytes. -/
def isNothing : TypedValue → Bool
  | .truth b => !b
  | .span s => s.plain && s.micros = 0
  | .bytes b => b.isEmpty
  | v => (v.quantity?.bind fun q => q.order? (.ratio 0 1)) == some .eq

end TypedValue

end GraphLift
