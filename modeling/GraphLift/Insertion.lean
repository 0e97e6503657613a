/-! # Sorting by insertion

    `sort` takes the run in front of a list that rises already, or reverses the one that falls, and inserts the
    other members one by one, each behind the members that it is not before.

    The comparison need not be an order, and it may fail. Where it is an order, members that are neither before
    the other keep their places.
-/

namespace GraphLift

namespace Insertion

variable {α ε : Type}

/-- The members of a run that falls, the last of which stands in front, and what follows it. -/
def fallingRun (before : α → α → Except ε Bool) (run : List α) (last : α) :
    List α → Except ε (List α × List α)
  | [] => .ok (run, [])
  | a :: rest => do
    if ← before a last then fallingRun before (a :: run) a rest else return (run, a :: rest)

/-- The members of a run that rises, the last of which stands in front, and what follows it. -/
def risingRun (before : α → α → Except ε Bool) (run : List α) (last : α) :
    List α → Except ε (List α × List α)
  | [] => .ok (run, [])
  | a :: rest => do
    if ← before a last then return (run, a :: rest) else risingRun before (a :: run) a rest

/-- The place between two others at which a member belongs, found by halving; `room` is for as many steps as
    there are places. -/
def place (before : α → α → Except ε Bool) (xs : List α) (a : α) :
    (room low high : Nat) → Except ε Nat
  | 0, low, _ => .ok low
  | room + 1, low, high =>
    if low < high then
      let middle := low + (high - low) / 2
      match xs[middle]? with
      | none => .ok low
      | some b => do
        if ← before a b then place before xs a room low middle else place before xs a room (middle + 1) high
    else .ok low

/-- The list with one more member. -/
def insert (before : α → α → Except ε Bool) (xs : List α) (a : α) : Except ε (List α) := do
  let n ← place before xs a (xs.length + 1) 0 xs.length
  return xs.take n ++ a :: xs.drop n

/-- Sorts a list. -/
def sort (before : α → α → Except ε Bool) : List α → Except ε (List α)
  | [] => .ok []
  | [a] => .ok [a]
  | a :: b :: rest => do
    let (sorted, others) ← do
      if ← before b a then fallingRun before [b, a] b rest
      else
        let (run, others) ← risingRun before [b, a] b rest
        pure (run.reverse, others)
    others.foldlM (insert before) sorted

end Insertion

end GraphLift
