import GraphLift.Iri
import GraphLift.Json.Display
import GraphLift.Report.Failure

/-! # Prefix tables

    A prefix table gives namespaces to prefixes. A reference in the compact form `prefix:local` expands to the
    namespace followed by the local part.

    * **Angle brackets** around a reference give what is between them.
    * **A known prefix** wins over the reading as an absolute IRI.
    * **An absolute IRI** expands to itself; here it needs two slashes after its scheme, or the scheme `urn`.

    Tables are written in JSON, where a prefix or a namespace need not be a text. Such entries are kept: they
    fail where they are used and not before.
-/

namespace GraphLift

/-- What stands for a prefix in a table. -/
inductive PrefixName where
  | text (s : String)
  /-- Null, which is bound as the empty prefix. -/
  | absent
  /-- A value of another kind. -/
  | other
  deriving DecidableEq, Repr

/-- Namespaces by prefix, in the order in which they were written. -/
structure PrefixTable where
  entries : List (PrefixName × Json)

namespace PrefixTable

/-- A table of texts. -/
def ofTexts (pairs : List (String × String)) : PrefixTable :=
  ⟨pairs.map fun p => (.text p.1, .text p.2)⟩

/-- The table that the members of an object write. -/
def ofMembers (members : List (String × Json)) : PrefixTable :=
  ⟨members.map fun p => (.text p.1, p.2)⟩

/-! ## Tables written as lists of pairs -/

/-- The two values of a pair: a list, a text or an object of length two. -/
def pairOf (index : Nat) (v : Json) : Except Failure (Json × Json) :=
  let parts : Option (List Json) := match v with
    | .array items => some items
    | .text s => some (s.toList.map fun c => .text (String.singleton c))
    | .object members => some (members.map fun m => .text m.1)
    | _ => none
  match parts with
  | none => .error (.shape .notIterable)
  | some [a, b] => .ok (a, b)
  | some ps => .error (.value (.notPair index ps.length))

/-- The prefix that a value stands for. -/
def nameOf : Json → Except Failure PrefixName
  | .text s => .ok (.text s)
  | .null => .ok .absent
  | .array _ | .object _ => .error (.shape .notComparable)
  | _ => .ok .other

/-- Writes a namespace under a prefix: in place if the prefix is there, at the end otherwise. -/
def put (name : PrefixName) (ns : Json) : List (PrefixName × Json) → List (PrefixName × Json)
  | [] => [(name, ns)]
  | (n, v) :: rest => if n = name then (n, ns) :: rest else (n, v) :: put name ns rest

/-- Reads pairs, the first of which has the given place in its list. -/
def readPairs (index : Nat) (table : List (PrefixName × Json)) : List Json → Except Failure PrefixTable
  | [] => .ok ⟨table⟩
  | v :: rest => do
    let (a, b) ← pairOf index v
    let name ← nameOf a
    readPairs (index + 1) (put name b table) rest

/-- The table that a JSON value writes: an object, or a list of pairs. What counts as nothing is empty. -/
def ofJson (v : Json) : Except Failure PrefixTable :=
  if !v.isTruthy then .ok ⟨[]⟩
  else match v with
    | .object members => .ok (ofMembers members)
    | .array items => readPairs 0 [] items
    | .text s => readPairs 0 [] (s.toList.map fun c => .text (String.singleton c))
    | _ => .error (.shape .notTable)

/-! ## Expanding references -/

/-- The namespace of a prefix, if there is one that is not null. -/
def namespaceOf? (table : PrefixTable) (name : String) : Option Json :=
  match table.entries.find? (fun e => e.1 == .text name) with
  | some (_, .null) | none => none
  | some (_, v) => some v

/-- A namespace that is found is that of an entry, and not null. -/
theorem exists_entry_of_namespaceOf? {table : PrefixTable} {name : String} {v : Json}
    (h : table.namespaceOf? name = some v) : ∃ e ∈ table.entries, e.2 = v ∧ v ≠ .null := by
  unfold namespaceOf? at h
  split at h
  · cases h
  · cases h
  · next w hnull hfind =>
    cases h
    exact ⟨_, List.mem_of_find?_eq_some hfind, rfl, hnull⟩

/-- The characters that have a basic Latin letter as a case variant, that letter included. -/
def isLooseLetter (c : Char) : Bool :=
  Iri.isLetter c || c = '\u0130' || c = '\u0131' || c = '\u017F' || c = '\u212A'

/-- Continues the scheme of a reference. -/
def isLooseSchemeChar (c : Char) : Bool :=
  isLooseLetter c || Iri.isSchemeChar c

/-- A reference that is an IRI by itself: a scheme and two slashes, or the scheme `urn` in any case. -/
def isSelfContained (s : List Char) : Bool :=
  match s with
  | u :: r :: n :: ':' :: _ =>
    ((u = 'u' || u = 'U') && (r = 'r' || r = 'R') && (n = 'n' || n = 'N')) || hasAuthority s
  | _ => hasAuthority s
where
  /-- A scheme and two slashes. -/
  hasAuthority (s : List Char) : Bool :=
    match Iri.afterScheme? isLooseLetter isLooseSchemeChar s with
    | some (':' :: '/' :: '/' :: _) => true
    | _ => false

/-- A trimmed reference without its angle brackets, if it has both of them. -/
def unbracket? (s : List Char) : Option (List Char) :=
  match s with
  | '<' :: rest =>
    if (s.getLast?) = some '>' then some rest.dropLast else none
  | _ => none

/-- Splits at the first colon. -/
def splitColon? (s : List Char) : Option (String × String) :=
  match s.dropWhile (· != ':') with
  | ':' :: rest => some (String.ofList (s.takeWhile (· != ':')), String.ofList rest)
  | _ => none

/-- What a trimmed reference expands to by itself. -/
def selfExpansion (s : List Char) : Option String :=
  if isSelfContained s then some (String.ofList s) else none

/-- What a reference expands to, if to anything. -/
def expand (table : PrefixTable) (reference : String) : Except Failure (Option String) :=
  let s := Text.trimChars reference.toList
  if s.isEmpty then .ok none
  else match unbracket? s with
    | some inner =>
      let iri := Text.trimChars inner
      .ok (if iri.isEmpty then none else some (String.ofList iri))
    | none =>
      match splitColon? s with
      | none => .ok (selfExpansion s)
      | some (name, rest) =>
        match table.namespaceOf? name with
        | none => .ok (selfExpansion s)
        | some (.text ns) => .ok (some (ns ++ rest))
        | some _ => .error (.shape .notJoinable)

/-- What an optional reference expands to. -/
def expandOption (table : PrefixTable) : Option String → Except Failure (Option String)
  | none => .ok none
  | some r => table.expand r

end PrefixTable

end GraphLift
