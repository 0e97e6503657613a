import GraphLift.JsonPath.Basic

/-! # Selecting with a path

    A `Spot` is a node of a document together with the nodes around it. `select` lists the spots that a path
    leads to, in order and with repetitions.

    * **An outermost node** has no containing node. A selection that asks for it does not exist, also if only
      one of many spots asks: `select` is then `none`.
    * **In a filter** the child under test counts as outermost, but `$` is still the node that the whole search
      started from.
-/

namespace GraphLift

namespace JsonPath

/-- A node with the nodes that contain it, the innermost first, and the node that its search started from. -/
structure Spot where
  value : Json
  above : List Json
  start : Json

namespace Spot

/-- A node below this one. -/
def below (s : Spot) (child : Json) : Spot := ⟨child, s.value :: s.above, s.start⟩

/-- The start of a search. -/
def ofStart (v : Json) : Spot := ⟨v, [], v⟩

/-- The containing node. -/
def container? (s : Spot) : Option Spot :=
  match s.above with
  | [] => none
  | v :: rest => some ⟨v, rest, s.start⟩

end Spot

/-! ## Children and descendants -/

/-- The elements of an array or the member values of an object. -/
def childValues : Json → List Json
  | .array items => items
  | .object members => members.map (·.2)
  | _ => []

mutual

/-- The node and all nodes below it, each before those below itself. -/
def descend (start : Json) (above : List Json) : Json → List Spot
  | .array items => ⟨.array items, above, start⟩ :: descendItems start (.array items :: above) items
  | .object members =>
    ⟨.object members, above, start⟩ :: descendMembers start (.object members :: above) members
  | v => [⟨v, above, start⟩]

/-- The descendants of array elements. -/
def descendItems (start : Json) (above : List Json) : List Json → List Spot
  | [] => []
  | v :: rest => descend start above v ++ descendItems start above rest

/-- The descendants of member values. -/
def descendMembers (start : Json) (above : List Json) : List (String × Json) → List Spot
  | [] => []
  | (_, v) :: rest => descend start above v ++ descendMembers start above rest

end

/-! ## Places in arrays -/

/-- The place that a number means in an array of the given length. -/
def placeOf? (length : Nat) (place : Int) : Option Nat :=
  let n := if place < 0 then place + length else place
  if 0 ≤ n && n < length then some n.toNat else none

/-- Moves a bound of a slice into the range between two limits; a negative bound counts from the end. -/
def clampBound (length low high bound : Int) : Int :=
  let b := if bound < 0 then bound + length else bound
  max low (min high b)

/-- The places of a slice in an array of the given length, in the order of the stride. -/
def slicePlaces (length : Nat) (start stop stride : Option Int) : List Nat :=
  let n : Int := length
  let step := stride.getD 1
  if step > 0 then
    let low := (start.map (clampBound n 0 n)).getD 0
    let high := (stop.map (clampBound n 0 n)).getD n
    let count := ((high - low + step - 1) / step).toNat
    (List.range count).map fun i : Nat => (low + (i : Int) * step).toNat
  else if step < 0 then
    let high := (start.map (clampBound n (-1) (n - 1))).getD (n - 1)
    let low := (stop.map (clampBound n (-1) (n - 1))).getD (-1)
    let count := ((high - low - step - 1) / (-step)).toNat
    (List.range count).map fun i : Nat => (high + (i : Int) * step).toNat
  else []

/-! ## Comparing -/

/-- The order of two values of one ordered kind: two numbers or two texts. What is no number has none. -/
def order? : Json → Json → Option Ordering
  | .int a, .int b => some (compare a b)
  | .int a, .real (.number b) => some (Binary64.compareInt a b)
  | .real (.number a), .int b => some (Binary64.compareInt b a).swap
  | .real (.number a), .real (.number b) => some (Binary64.compare a b)
  | .text a, .text b => some (compare a b)
  | _, _ => none

/-- Values of one kind that are the same. -/
def sameScalar : Json → Json → Bool
  | .null, .null => true
  | .bool a, .bool b => a == b
  | v, w => order? v w == some .eq

/-- The relation holds between two values. Values without an order may still be the same, and then stand in the
    two relations that include equality. -/
def Relation.holds (r : Relation) (v w : Json) : Bool :=
  match r with
  | .equal => sameScalar v w
  | .different => !sameScalar v w
  | .less => order? v w == some .lt
  | .lessOrEqual => order? v w == some .lt || sameScalar v w
  | .greater => order? v w == some .gt
  | .greaterOrEqual => order? v w == some .gt || sameScalar v w

/-! ## Steps -/

/-- The number of elements, members or characters of a value. -/
def sizeOf? : Json → Option Nat
  | .array items => some items.length
  | .object members => some members.length
  | .text s => some s.length
  | _ => none

mutual

/-- The spots that one step leads to. -/
def Step.apply (s : Spot) : Step → Option (List Spot)
  | .root => some [.ofStart s.start]
  | .here => some [s]
  | .members names =>
    match s.value with
    | .object members => some (names.filterMap fun n => (Json.lookup n members).map s.below)
    | _ => some []
  | .indices places =>
    match s.value with
    | .array items => some (places.filterMap fun p => ((placeOf? items.length p).bind (items[·]?)).map s.below)
    | _ => some []
  | .slice start stop stride =>
    match s.value with
    | .array items => some ((slicePlaces items.length start stop stride).filterMap fun p => items[p]?.map s.below)
    | _ => some []
  | .children => some ((childValues s.value).map s.below)
  | .descendants => some (descend s.start s.above s.value)
  | .filter test => do return (← (childValues s.value).filterM fun v => test.accepts s.start v).map s.below
  | .size => some ((sizeOf? s.value).map fun n => Spot.ofStart (.int n)).toList
  | .names =>
    match s.value with
    | .object members => some (members.map fun m => .ofStart (.text m.1))
    | _ => some []
  | .parent => s.container?.map ([·])

/-- The spots that a sequence of steps leads to. -/
def selectFrom (s : Spot) : List Step → Option (List Spot)
  | [] => some [s]
  | step :: rest => do return (← (← step.apply s).mapM fun t => selectFrom t rest).flatten

/-- A test holds of a node in a search from `start`. -/
def Filter.accepts (start v : Json) : Filter → Option Bool
  | .present path => (selectFrom ⟨v, [], start⟩ path).map fun found => !found.isEmpty
  | .absent path => (selectFrom ⟨v, [], start⟩ path).map List.isEmpty
  | .compare path relation constant =>
    (selectFrom ⟨v, [], start⟩ path).map fun found =>
      if found.isEmpty then relation == .different else found.any fun t => relation.holds t.value constant
  | .and left right => do if ← left.accepts start v then right.accepts start v else return false
  | .or left right => do if ← left.accepts start v then return true else right.accepts start v

end

/-- The spots that a path leads to in a search from a node. -/
def select (path : Path) (start : Json) : Option (List Spot) :=
  selectFrom (.ofStart start) path

end JsonPath

end GraphLift
