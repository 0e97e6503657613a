import GraphLift.Rdf.Namespaces
import GraphLift.Text.NameChar
import GraphLift.Text.Numeral

/-! # Short names of IRIs

    An IRI is shortened by cutting it into a namespace, which has a prefix, and a local name.

    * **The cut** comes before the last run of name characters, at the first of them that may start a name. If
      none of them may, the cut is sought from the front of the IRI. The namespace of the prefix `xml` is cut off
      from whatever follows it.
    * **A longer bound namespace** that the IRI starts with is taken instead.
    * **An IRI that is bound itself** has the empty local name.
-/

namespace GraphLift

/-- The characters that no written IRI may hold. -/
def refusedInIri : List Char :=
  ['<', '>', '"', ' ', '\x7b', '\x7d', '|', '\\', '^', '\x60']

/-- The IRI can be written. -/
def isWritable (iri : String) : Bool :=
  !iri.toList.any refusedInIri.contains

/-- A prefix, the namespace it is bound to, and a local name. -/
structure ShortName where
  name : String
  iri : String
  rest : String
  deriving DecidableEq, Repr

namespace ShortName

/-- The namespace of the prefix `xml`. -/
def xmlNamespace : List Char := "http://www.w3.org/XML/1998/namespace".toList

/-- The characters in front of the first place at which a mark stands. -/
def upTo (mark : List Char) : List Char → List Char
  | [] => []
  | c :: rest => if mark.isPrefixOf (c :: rest) then [] else c :: upTo mark rest

/-- Cuts an IRI into a namespace and a local name that starts as `starts` admits. -/
def cutBefore? (starts : Char → Bool) (iri : List Char) : Option (List Char × List Char) :=
  let tail := (iri.reverse.takeWhile Text.isNameChar).reverse
  if tail.length = iri.length then none
  else
    let found := tail.dropWhile (!starts ·)
    if !found.isEmpty then some (iri.take (iri.length - found.length), found)
    else
      let front := iri.takeWhile (!starts ·)
      if front.isEmpty || front.length = iri.length then none
      else some (front, iri.drop front.length)

/-- Cuts an IRI into a namespace and a local name. -/
def cut? (starts : Char → Bool) (iri : List Char) : Option (List Char × List Char) :=
  if xmlNamespace.isPrefixOf iri then
    some (xmlNamespace, upTo xmlNamespace (iri.drop xmlNamespace.length))
  else cutBefore? starts iri

/-- The cut of an IRI for compact names. -/
def cut (iri : String) : Option (String × String) :=
  (cut? Text.isNameStart iri.toList).map fun p => (String.ofList p.1, String.ofList p.2)

/-- The longer of two namespaces, the first of two equally long ones. -/
def longer (a b : String × String) : String × String :=
  if a.2.length < b.2.length then b else a

/-- The longest bound namespace that an IRI starts with and that starts with the namespace of its cut. -/
def longest? (ns : Namespaces) (base iri : String) : Option (String × String) :=
  match ns.pairs.filter fun p => base.toList.isPrefixOf p.2.toList && p.2.toList.isPrefixOf iri.toList with
  | [] => none
  | p :: rest => some (rest.foldl longer p)

/-- The short name of an IRI, if it has one. -/
def of? (ns : Namespaces) (iri : String) : Option ShortName :=
  let whole := (ns.nameOf? iri).map (⟨·, iri, ""⟩)
  if !isWritable iri then whole
  else match cut iri with
    | none => whole
    | some (base, rest) =>
      match longest? ns base iri with
      | some (name, n) => some ⟨name, n, if n = base then rest else String.ofList (iri.toList.drop n.length)⟩
      | none => whole

/-! ## Names made up for namespaces -/

/-- The first of the names `ns1`, `ns2`, … from a given number on that is not bound; with `room` for as many
    names as are bound one is found. -/
def freeName (ns : Namespaces) (n : Nat) : (room : Nat) → String
  | 0 => s!"ns{n}"
  | room + 1 => if (ns.namespaceOf? s!"ns{n}").isSome then freeName ns (n + 1) room else s!"ns{n}"

/-- The namespaces with a name for that of the IRI, made up if there is none. -/
def ensure (ns : Namespaces) (iri : String) : Namespaces :=
  if !isWritable iri then ns
  else match cut iri with
    | none => ns
    | some (base, _) =>
      if (longest? ns base iri).isSome then ns
      else ns.bind (freeName ns 1 ns.pairs.length) base

/-! ## Strict names -/

/-- A letter or an underscore. -/
def isStrictStart (c : Char) : Bool :=
  Text.isNameStart c && (Text.digitValue? c).isNone

/-- Name characters, the first of them no digit. -/
def isStrict (s : String) : Bool :=
  match s.toList with
  | [] => false
  | c :: rest => isStrictStart c && rest.all Text.isNameChar

/-- The cut of an IRI before a strict local name. -/
def strictCut (iri : String) : Option (String × String) :=
  (cut? isStrictStart iri.toList).map fun p => (String.ofList p.1, String.ofList p.2)

/-- The namespaces with a name for that of the IRI and for that of its strict local name. -/
def ensureStrict (ns : Namespaces) (iri : String) : Namespaces :=
  let ns := ensure ns iri
  match of? ns iri, strictCut iri with
  | some s, some (base, _) =>
    if isStrict s.rest || (ns.nameOf? base).isSome then ns
    else ns.bind (freeName ns 1 ns.pairs.length) base
  | _, _ => ns

/-- The short name of an IRI, where one that is bound itself must not be bound to the empty prefix. -/
def named? (ns : Namespaces) (iri : String) : Option ShortName :=
  (of? ns iri).filter fun s => (cut iri).isSome || s.name ≠ ""

/-- The short name of an IRI with a strict local name, or why there is none. -/
def strict (ns : Namespaces) (iri : String) : Except ValueError ShortName :=
  if !isWritable iri then .error (.badIri iri)
  else match named? ns iri with
    | none => .error (.unsplittable iri)
    | some s =>
      if isStrict s.rest then .ok s
      else match (strictCut iri).bind fun c => (ns.nameOf? c.1).map (⟨·, c.1, c.2⟩) with
        | some t => .ok t
        | none => .error (.unshortenable iri)

end ShortName

end GraphLift
