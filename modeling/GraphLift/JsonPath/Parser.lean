import GraphLift.JsonPath.Basic
import GraphLift.JsonPath.Token

/-! # Reading JSON paths

    The grammar of paths, on tokens:

    * a **path** is an operand followed by continuations;
    * an **operand** is `$`, `@`, a list of names, `*`, a number that names a member, an operator between back
      quotes, brackets with names, places, a slice or `*`, or a path in parentheses;
    * a **continuation** is a dot or two dots with an operand, or brackets, perhaps after two dots, which here
      may also hold a filter;
    * a **filter** combines tests with `&&` before `||` and with parentheses; a test is a path, perhaps compared
      with a constant, or a path after `!`.

    What stands in parentheses is a path if it can be one, and is then continued and compared like any other.

    `parse?` accepts a text only if all of it is one path.
-/

namespace GraphLift

namespace JsonPath

/-- The outcome of reading something off the front of `ts`. -/
abbrev Reading (α : Type) (ts : List Token) := Option (α × Shorter ts)

/-! ## Operands -/

/-- Reads further names, each after a comma. -/
def moreNames : (ts : List Token) → List String × { r : List Token // r.length ≤ ts.length }
  | .comma :: .name s :: r =>
    let (more, ⟨t, ht⟩) := moreNames r
    (s :: more, ⟨t, by simp only [List.length_cons]; omega⟩)
  | .comma :: .quoted s :: r =>
    let (more, ⟨t, ht⟩) := moreNames r
    (s :: more, ⟨t, by simp only [List.length_cons]; omega⟩)
  | ts => ([], ⟨ts, Nat.le_refl _⟩)

/-- Reads further places, each after a comma. -/
def moreIndices : (ts : List Token) → List Int × { r : List Token // r.length ≤ ts.length }
  | .comma :: .whole n :: r =>
    let (more, ⟨t, ht⟩) := moreIndices r
    (n :: more, ⟨t, by simp only [List.length_cons]; omega⟩)
  | ts => ([], ⟨ts, Nat.le_refl _⟩)

/-- Reads a number that may be left out. -/
def optionalWhole (ts : List Token) : Option Int × { r : List Token // r.length ≤ ts.length } :=
  match ts with
  | .whole n :: r => (some n, ⟨r, Nat.le_succ _⟩)
  | ts => (none, ⟨ts, Nat.le_refl _⟩)

/-- Reads a slice that starts with its first colon. -/
def sliceAfter (start : Option Int) (ts : List Token) : Reading Step ts :=
  match ts with
  | .colon :: r =>
    let (stop, ⟨t, ht⟩) := optionalWhole r
    match t, ht with
    | .rightBracket :: u, ht => some (.slice start stop none, ⟨u, by simp only [List.length_cons] at ht ⊢; omega⟩)
    | .colon :: u, ht =>
      let (stride, ⟨v, hv⟩) := optionalWhole u
      match v, hv with
      | .rightBracket :: w, hv =>
        some (.slice start stop stride, ⟨w, by simp only [List.length_cons] at ht hv ⊢; omega⟩)
      | _, _ => none
    | _, _ => none
  | _ => none

/-- Reads what stands in brackets after the opening one: names, places, a slice or a star. -/
def bracketed (ts : List Token) : Reading Step ts :=
  match ts with
  | .star :: .rightBracket :: r => some (.children, (Shorter.tail _ r).after _)
  | .name s :: r =>
    match moreNames r with
    | (more, ⟨.rightBracket :: t, ht⟩) =>
      some (.members (s :: more), ⟨t, by simp only [List.length_cons] at ht ⊢; omega⟩)
    | _ => none
  | .quoted s :: r =>
    match moreNames r with
    | (more, ⟨.rightBracket :: t, ht⟩) =>
      some (.members (s :: more), ⟨t, by simp only [List.length_cons] at ht ⊢; omega⟩)
    | _ => none
  | .whole n :: .colon :: r =>
    (sliceAfter (some n) (.colon :: r)).map fun (s, t) => (s, t.after _)
  | .whole n :: r =>
    match moreIndices r with
    | (more, ⟨.rightBracket :: t, ht⟩) =>
      some (.indices (n :: more), ⟨t, by simp only [List.length_cons] at ht ⊢; omega⟩)
    | _ => none
  | ts => sliceAfter none ts

/-- The step of an operator between back quotes. -/
def operatorStep? (word : String) : Option Step :=
  if word = "len" then some .size
  else if word = "keys" then some .names
  else if word = "parent" then some .parent
  else if word = "this" then some .here
  else none

/-- Reads an operand that is a single step. -/
def simpleOperand (ts : List Token) : Reading Step ts :=
  match ts with
  | .dollar :: r => some (.root, Shorter.tail _ r)
  | .at :: r => some (.here, Shorter.tail _ r)
  | .star :: r => some (.children, Shorter.tail _ r)
  | .name s :: r =>
    let (more, ⟨t, ht⟩) := moreNames r
    some (.members (s :: more), ⟨t, by simp only [List.length_cons]; omega⟩)
  | .quoted s :: r =>
    let (more, ⟨t, ht⟩) := moreNames r
    some (.members (s :: more), ⟨t, by simp only [List.length_cons]; omega⟩)
  | .whole n :: r => some (.members [toString n], Shorter.tail _ r)
  | .operator word :: r => (operatorStep? word).map fun s => (s, Shorter.tail _ r)
  | .leftBracket :: r => (bracketed r).map fun (s, t) => (s, t.after _)
  | _ => none

/-! ## Paths and filters -/

/-- The relation that a token stands for. -/
def relation? : Token → Option Relation
  | .equal => some .equal
  | .different => some .different
  | .less => some .less
  | .lessOrEqual => some .lessOrEqual
  | .greater => some .greater
  | .greaterOrEqual => some .greaterOrEqual
  | _ => none

/-- The constant that a token stands for in a comparison. -/
def constant? : Token → Option Json
  | .whole n => some (.int n)
  | .decimal x => some (.real (.number x))
  | .quoted s => some (.text s)
  | .name s =>
    if s = "true" then some (.bool true)
    else if s = "false" then some (.bool false)
    else if s = "null" then some .null
    else none
  | _ => none

/-- Reads the relation and the constant that a path may be compared with. -/
def comparison (p : Path) (ts : List Token) : Option (Filter × { r : List Token // r.length ≤ ts.length }) :=
  match ts with
  | [] => some (.present p, ⟨[], Nat.le_refl _⟩)
  | sign :: r =>
    match relation? sign with
    | none => some (.present p, ⟨sign :: r, Nat.le_refl _⟩)
    | some relation =>
      match r with
      | [] => none
      | c :: u =>
        (constant? c).map fun constant =>
          (.compare p relation constant, ⟨u, by simp only [List.length_cons]; omega⟩)

mutual

/-- Reads a path. -/
def path (ts : List Token) : Reading Path ts := do
  let (steps, ⟨t, ht⟩) ← operand ts
  let (more, ⟨u, hu⟩) ← continuations t
  return (steps ++ more, ⟨u, by omega⟩)
termination_by (ts.length, 1)

/-- Reads an operand. -/
def operand (ts : List Token) : Reading Path ts :=
  match ts with
  | .leftParen :: r => do
    let (p, ⟨t, ht⟩) ← path r
    match t, ht with
    | .rightParen :: u, ht => return (p, ⟨u, by simp only [List.length_cons] at ht ⊢; omega⟩)
    | _, _ => none
  | ts => (simpleOperand ts).map fun (step, t) => ([step], t)
termination_by (ts.length, 0)

/-- Reads the continuations of a path. -/
def continuations (ts : List Token) : Option (Path × { r : List Token // r.length ≤ ts.length }) :=
  match ts with
  | .dot :: r => do
    let (steps, ⟨t, ht⟩) ← operand r
    let (more, ⟨u, hu⟩) ← continuations t
    return (steps ++ more, ⟨u, by simp only [List.length_cons]; omega⟩)
  | .dots :: .leftBracket :: .question :: r => do
    let (test, ⟨t, ht⟩) ← closedFilter r
    let (more, ⟨u, hu⟩) ← continuations t
    return (.descendants :: .filter test :: more, ⟨u, by simp only [List.length_cons]; omega⟩)
  | .dots :: r => do
    let (steps, ⟨t, ht⟩) ← operand r
    let (more, ⟨u, hu⟩) ← continuations t
    return (.descendants :: (steps ++ more), ⟨u, by simp only [List.length_cons]; omega⟩)
  | .leftBracket :: .question :: r => do
    let (test, ⟨t, ht⟩) ← closedFilter r
    let (more, ⟨u, hu⟩) ← continuations t
    return (.filter test :: more, ⟨u, by simp only [List.length_cons]; omega⟩)
  | .leftBracket :: r => do
    let (step, ⟨t, ht⟩) ← bracketed r
    let (more, ⟨u, hu⟩) ← continuations t
    return (step :: more, ⟨u, by simp only [List.length_cons]; omega⟩)
  | ts => some ([], ⟨ts, Nat.le_refl _⟩)
termination_by (ts.length, 0)
decreasing_by all_goals simp only [Prod.lex_def, List.length_cons]; omega

/-- Reads a filter and the bracket that closes it. -/
def closedFilter (ts : List Token) : Reading Filter ts := do
  let (test, ⟨t, ht⟩) ← disjunction ts
  match t, ht with
  | .rightBracket :: u, ht => return (test, ⟨u, by simp only [List.length_cons] at ht ⊢; omega⟩)
  | _, _ => none
termination_by (ts.length, 5)

/-- Reads tests with `||` between them. -/
def disjunction (ts : List Token) : Reading Filter ts := do
  let (left, ⟨t, ht⟩) ← conjunction ts
  match t, ht with
  | .disjunction :: r, ht =>
    have : r.length < ts.length := by simp only [List.length_cons] at ht; omega
    let (right, ⟨u, hu⟩) ← disjunction r
    return (.or left right, ⟨u, by omega⟩)
  | t, ht => return (left, ⟨t, ht⟩)
termination_by (ts.length, 4)

/-- Reads tests with `&&` between them. -/
def conjunction (ts : List Token) : Reading Filter ts := do
  let (left, ⟨t, ht⟩) ← test ts
  match t, ht with
  | .conjunction :: r, ht =>
    have : r.length < ts.length := by simp only [List.length_cons] at ht; omega
    let (right, ⟨u, hu⟩) ← conjunction r
    return (.and left right, ⟨u, by omega⟩)
  | t, ht => return (left, ⟨t, ht⟩)
termination_by (ts.length, 3)

/-- Reads one test. -/
def test (ts : List Token) : Reading Filter ts :=
  match ts with
  | .negation :: r => do
    let (p, ⟨t, ht⟩) ← path r
    return (.absent p, ⟨t, by simp only [List.length_cons]; omega⟩)
  | .leftParen :: r => do
    let (inner, ⟨t, ht⟩) ← disjunction r
    match t, ht with
    | .rightParen :: u, ht =>
      match inner with
      | .present p => do
        have : u.length < r.length + 1 := by simp only [List.length_cons] at ht; omega
        let (more, ⟨v, hv⟩) ← continuations u
        let (found, ⟨w, hw⟩) ← comparison (p ++ more) v
        return (found, ⟨w, by simp only [List.length_cons] at ht ⊢; omega⟩)
      | inner => return (inner, ⟨u, by simp only [List.length_cons] at ht ⊢; omega⟩)
    | _, _ => none
  | ts => do
    let (p, ⟨t, ht⟩) ← path ts
    let (found, ⟨u, hu⟩) ← comparison p t
    return (found, ⟨u, by omega⟩)
termination_by (ts.length, 2)

end

/-- The path that a text writes, if all of it is one path. -/
def parse? (text : String) : Option Path := do
  let ts ← tokens? text.toList
  match ← path ts with
  | (p, ⟨[], _⟩) => return p
  | _ => none

end JsonPath

end GraphLift
