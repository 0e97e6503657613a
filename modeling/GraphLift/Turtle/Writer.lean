import GraphLift.Insertion
import GraphLift.Turtle.Collection
import GraphLift.Turtle.Literal

/-! # Writing Turtle

    A Turtle text has one line per prefix it uses, then one statement per subject.

    * **Subjects**: classes come first, then IRIs before blank nodes, those that are objects less often first.
    * **Predicates**: the type, the label, then the others by IRI. **Objects**: blank nodes, IRIs, literals.
    * **Blank nodes** that are the object of at most one triple are written where they are used, between
      brackets. One that is no object is written as a pair of brackets in front of its predicates.
    * **Collections** are written as their items between parentheses. Their cells have no statements of their
      own after that, be they blank nodes or not.
    * **Indents** are four spaces per level: predicates are one level in, further objects two levels, and
      between brackets everything is two levels further in, between parentheses one.
-/

namespace GraphLift

namespace Turtle

/-- The label predicate. -/
def rdfsLabel : String := "http://www.w3.org/2000/01/rdf-schema#label"

/-- The type of classes. -/
def rdfsClass : String := "http://www.w3.org/2000/01/rdf-schema#Class"

/-- What is written: triples and the names for them. -/
structure Layout where
  triples : List Triple
  naming : Naming

/-! ## Grouping -/

/-- The members of a list, each at its first place only. -/
def distinct {α : Type} [BEq α] : List α → List α
  | [] => []
  | a :: rest => a :: (distinct rest).filter (· != a)

/-- The triples with those of one subject together, and those of one predicate together within them. -/
def grouped (ts : List Triple) : List Triple :=
  (distinct (ts.map (·.subject))).flatMap fun s =>
    let own := ts.filter (·.subject == s)
    (distinct (own.map (·.predicate))).flatMap fun p => own.filter (·.predicate == p)

/-! ## Order -/

/-- The text of a node's label or IRI. -/
def nodeKey : Node → String
  | .iri s => s
  | .blank n => s!"b{n}"

/-- The order of nodes: blank nodes first, then by text. -/
def compareNode (a b : Node) : Ordering :=
  match a, b with
  | .blank _, .iri _ => .lt
  | .iri _, .blank _ => .gt
  | a, b => compare (nodeKey a) (nodeKey b)

/-- Whether an object comes before another: blank nodes, IRIs, literals. -/
def termBefore (a b : Term) : Except Failure Bool :=
  match a, b with
  | .node a, .node b => .ok (compareNode a b == .lt)
  | .node _, .literal _ => .ok true
  | .literal _, .node _ => .ok false
  | .literal a, .literal b => a.before b

/-- Sorts by an order; what is equal keeps its order. -/
def sortBy {α : Type} (order : α → α → Ordering) (xs : List α) : List α :=
  xs.mergeSort fun a b => order a b != .gt

namespace Layout

/-- How often a node is an object. -/
def references (l : Layout) (n : Node) : Nat :=
  (l.triples.filter fun t => t.object == .node n).length

/-- The node is a blank node. -/
def blankRank : Node → Nat
  | .iri _ => 0
  | .blank _ => 1

/-- The subjects in the order in which their statements come. -/
def subjects (l : Layout) : List Node :=
  let all := distinct (l.triples.map (·.subject))
  let isClass (s : Node) : Bool := l.triples.any fun t =>
    t.subject == s && t.predicate == rdfType && t.object == .node (.iri rdfsClass)
  let order (a b : Node) : Ordering :=
    (compare (blankRank a) (blankRank b)).then
      ((compare (l.references a) (l.references b)).then (compareNode a b))
  sortBy compareNode (all.filter isClass) ++ sortBy order (all.filter (!isClass ·))

/-- The predicates of a node in the order in which they are written, with their objects as they came. -/
def said (l : Layout) (n : Node) : List (String × List Term) :=
  let own := l.triples.filter (·.subject == n)
  let all := distinct (own.map (·.predicate))
  let leading := [rdfType, rdfsLabel].filter all.contains
  let others := sortBy compare (all.filter fun p => !leading.contains p)
  (leading ++ others).map fun p => (p, (own.filter (·.predicate == p)).map (·.object))

/-- The predicates of a node with their objects, in the order in which they are written. -/
def sorted (l : Layout) (n : Node) : Except Failure (List (String × List Term)) :=
  (l.said n).mapM fun (p, objects) => do return (p, ← Insertion.sort termBefore objects)

/-! ## Text -/

/-- The spaces at the start of a line. -/
def indent (level : Nat) : String :=
  "".pushn ' ' (4 * level)

/-- Writing keeps the nodes that have been written already. -/
abbrev Writing := StateT (List Node) (Except Failure)

/-- The label of a blank node. -/
def blankText (n : Nat) : String := s!"_:b{n}"

/-- The text of a subject that is not written between brackets. -/
def nodeText (l : Layout) : Node → Except Failure String
  | .iri s => l.naming.iriText s
  | .blank n => .ok (blankText n)

/-- The predicates of a node and their objects, after the node, where `write` writes an object. -/
def propertiesWith (l : Layout) (write : Term → Writing String) (level : Nat) (node : Node) :
    Writing String := do
  let said ← StateT.lift (l.sorted node)
  let parts ← said.mapM fun (p, objects) => do
    let predicate ← StateT.lift (l.naming.predicateText p)
    let texts ← objects.mapM write
    return predicate ++ " " ++ (",\n" ++ indent (level + 1)).intercalate texts
  if parts.isEmpty then return ""
  else return " " ++ (" ;\n" ++ indent level).intercalate parts

/-- A blank node may be written where it is used: it is not written yet, and used nowhere else. -/
def isInline (l : Layout) (written : List Node) (n : Node) : Bool :=
  !written.contains n && l.references n ≤ 1

/-- An object of a predicate at a level; `room` is for as many brackets within each other as there are blank
    nodes. -/
def objectText (l : Layout) : (room level : Nat) → Term → Writing String
  | _, _, .literal lit => pure (literalText l.naming lit)
  | _, _, .node (.iri s) => StateT.lift (l.naming.iriText s)
  | 0, _, .node (.blank n) => pure (blankText n)
  | room + 1, level, .node (.blank n) => do
    if !l.isInline (← get) (.blank n) then return blankText n
    else match Collection.cells? l.triples (.blank n) with
      | some cells =>
        let items ← cells.mapM fun (cell, item) => do
          let text ← objectText l room (level + 1) item
          modify (cell :: ·)
          return text ++ " "
        return "( " ++ String.join items ++ ")"
      | none =>
        modify (.blank n :: ·)
        return "[" ++ (← l.propertiesWith (objectText l room (level + 2)) (level + 2) (.blank n)) ++ " ]"

/-- What stands in front of the predicates of a subject. -/
def head (l : Layout) (s : Node) : Except Failure String :=
  match s with
  | .blank _ => if l.references s = 0 then .ok "[]" else l.nodeText s
  | .iri _ => l.nodeText s

/-- The statement of a subject, unless that has been written already. -/
def statement (l : Layout) (room : Nat) (s : Node) : Writing String := do
  if (← get).contains s then return ""
  else
    modify (s :: ·)
    let front ← StateT.lift (l.head s)
    return "\n" ++ front ++ (← l.propertiesWith (l.objectText room 1) 1 s) ++ " .\n"

/-- The line of a prefix. -/
def headerLine (p : String × String) : String :=
  "@prefix " ++ p.1 ++ ": <" ++ p.2 ++ "> .\n"

/-- The lines of the prefixes, by prefix. -/
def header (l : Layout) : String :=
  String.join ((sortBy (fun a b => compare a.1 b.1) l.naming.shown).map headerLine)

/-- The whole text. -/
def text (l : Layout) : Except Failure String := do
  let (statements, _) ← (l.subjects.mapM (l.statement l.triples.length)).run []
  return l.header ++ String.join statements ++ "\n"

end Layout

/-- The Turtle text of a graph. -/
def write (g : Graph) (ns : Namespaces) : Except Failure String :=
  let ts := grouped g.triples
  Layout.text ⟨ts, Naming.ofTriples ns ts⟩

end Turtle

end GraphLift
