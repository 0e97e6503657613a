import GraphLift.Json.Basic

/-! # JSON paths

    A path is a sequence of steps. Each step maps one node of a document to any number of nodes, so selecting
    with a path is composition, and `a..b` is the three steps `a`, "the node and all its descendants", `b`.

    * **Steps** go to named members, to array elements by index or slice, to all children, to all descendants,
      to the containing node, or keep the children that satisfy a filter.
    * **Filters** test whether a path from a child selects something or nothing, compare what it selects with a
      constant, and combine such tests.
-/

namespace GraphLift

namespace JsonPath

/-- How a selected value is compared with a constant. -/
inductive Relation where
  | equal
  | different
  | less
  | lessOrEqual
  | greater
  | greaterOrEqual
  deriving DecidableEq, Repr

mutual

/-- One step of a path. -/
inductive Step where
  /-- The outermost node of the whole search, written `$`. -/
  | root
  /-- The node itself, written `@`. -/
  | here
  /-- The members with these names, absent ones skipped. -/
  | members (names : List String)
  /-- The array elements at these places, counted from the end if negative. -/
  | indices (places : List Int)
  /-- The array elements from `start` up to `stop`, every `stride`-th. -/
  | slice (start stop stride : Option Int)
  /-- All elements of an array or all member values of an object. -/
  | children
  /-- The node and all nodes below it, each before those below itself. -/
  | descendants
  /-- The children that satisfy a test. -/
  | filter (test : Filter)
  /-- The number of elements, members or characters. -/
  | size
  /-- The names of the members of an object. -/
  | names
  /-- The containing node. -/
  | parent

/-- A test on a node. -/
inductive Filter where
  /-- The path selects something. -/
  | present (path : List Step)
  /-- The path selects nothing. -/
  | absent (path : List Step)
  /-- The path selects a value that stands in the relation to the constant. -/
  | compare (path : List Step) (relation : Relation) (constant : Json)
  | and (left right : Filter)
  | or (left right : Filter)

end

/-- A path is its steps in order. -/
abbrev Path := List Step

end JsonPath

end GraphLift
