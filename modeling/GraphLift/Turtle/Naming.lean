import GraphLift.Rdf.Name
import GraphLift.Rdf.Term

/-! # Names in a Turtle text

    Before anything is written, the triples of a graph are passed once to find out which prefixes the text uses.

    * **Predicates** other than the type get a prefix made up for them if their namespace has none.
    * **Other IRIs**, those of datatypes included, use the prefixes there are.
    * **Prefixes** that start with an underscore are written with a letter in front.
    * **Local names** that end with a point cannot be written, and the IRI is written in full.
-/

namespace GraphLift

namespace Turtle

/-- The names a text uses. -/
structure Naming where
  namespaces : Namespaces
  /-- Written prefixes with their namespaces, each once. -/
  shown : List (String × String) := []
  /-- Prefixes with what is written instead of them. -/
  respelled : List (String × String) := []

namespace Naming

/-- A prefix with as many letters in front as are needed for it to be new. -/
def fresh (shown : List (String × String)) (name : String) : (room : Nat) → String
  | 0 => name
  | room + 1 => if shown.any (·.1 == name) then fresh shown ("p" ++ name) room else name

/-- A prefix cannot be written as it is: it starts with an underscore, or stands for another namespace. -/
def needsRespelling (n : Naming) (name iri : String) : Bool :=
  name.toList.head? = some '_' || n.shown.any fun p => p.1 == name && p.2 != iri

/-- Notes that a prefix is used for a namespace. -/
def withPrefix (n : Naming) (name iri : String) : Naming :=
  let n :=
    if n.needsRespelling name iri && !n.respelled.any (·.1 == name) then
      { n with respelled := n.respelled ++ [(name, fresh n.shown ("p" ++ name) n.shown.length)] }
    else n
  let written := if n.needsRespelling name iri then ((n.respelled.find? (·.1 == name)).map (·.2)).getD name else name
  if n.shown.any (·.1 == written) then n else { n with shown := n.shown ++ [(written, iri)] }

/-- The characters of a local name as they are written: parentheses are escaped, and so is a percent sign that
    two hexadecimal digits do not follow. -/
def escapeChars : List Char → List Char
  | [] => []
  | c :: rest =>
    if c = '(' || c = ')' then '\\' :: c :: escapeChars rest
    else if c = '%' && !startsWithHex rest then '\\' :: c :: escapeChars rest
    else c :: escapeChars rest
where
  /-- The text starts with two hexadecimal digits. -/
  startsWithHex : List Char → Bool
    | a :: b :: _ => (Text.hexValue? a).isSome && (Text.hexValue? b).isSome
    | _ => false

/-- The local name as it is written. -/
def escapeLocal (s : String) : String :=
  String.ofList (escapeChars s.toList)

/-- The short name of an IRI, unless its local name cannot be written. -/
def shortName? (n : Naming) (iri : String) : Option ShortName :=
  (ShortName.of? n.namespaces iri).filter fun s => s.rest.toList.getLast? != some '.'

/-- Notes the prefix that an IRI is written with. -/
def note (n : Naming) (iri : String) : Naming :=
  match n.shortName? iri with
  | some s => n.withPrefix s.name s.iri
  | none => n

/-- Notes the prefix that a predicate is written with. -/
def notePredicate (n : Naming) (iri : String) : Naming :=
  if iri = rdfType then n else { n with namespaces := ShortName.ensure n.namespaces iri }.note iri

/-- Notes the prefixes that a term is written with. -/
def noteTerm (n : Naming) : Term → Naming
  | .node (.iri s) => n.note s
  | .node (.blank _) => n
  | .literal ⟨_, .datatype d⟩ => n.note d
  | .literal _ => n

/-- Notes the prefixes that a triple is written with. -/
def noteTriple (n : Naming) (t : Triple) : Naming :=
  ((n.noteTerm (.node t.subject)).notePredicate t.predicate).noteTerm t.object

/-- The names for triples in the order in which they are passed. -/
def ofTriples (ns : Namespaces) (ts : List Triple) : Naming :=
  ts.foldl noteTriple { namespaces := ns }

/-- The compact form of an IRI, if it has one. -/
def compact? (n : Naming) (iri : String) : Option String :=
  (n.shortName? iri).map fun s =>
    let written :=
      if n.needsRespelling s.name s.iri then ((n.respelled.find? (·.1 == s.name)).map (·.2)).getD s.name
      else s.name
    written ++ ":" ++ escapeLocal s.rest

/-- The IRI as it is written: compact, or in angle brackets. -/
def iriText (n : Naming) (iri : String) : Except Failure String :=
  if iri = rdfNil then .ok "()"
  else match n.compact? iri with
    | some s => .ok s
    | none => if isWritable iri then .ok ("<" ++ iri ++ ">") else .error (.unwritable iri)

/-- The predicate as it is written. -/
def predicateText (n : Naming) (iri : String) : Except Failure String :=
  if iri = rdfType then .ok "a" else n.iriText iri

/-- The datatype as it is written. -/
def datatypeText (n : Naming) (iri : String) : String :=
  (n.compact? iri).getD ("<" ++ iri ++ ">")

end Naming

end Turtle

end GraphLift
