import GraphLift.Mapping.Values
import GraphLift.Rdf.Namespaces
import GraphLift.Template.References

/-! # Mapping documents by a template

    A `Mapper` is a template whose node templates do not refer to each other in a circle, with a prefix table.
    It describes the resources of a document, one per match of the scope path, and `mapInto` writes the
    descriptions into a graph.

    * **Properties** whose predicate does not expand are left out.
    * **Node templates** may be nested up to `maxDepth` levels below a resource.
    * **Objects** are described in one of four cases (`Mapper.objects_of_ne` and so on), which are those of an induction
      over a property and the room that is left (`Mapper.objects_induction`).
-/

namespace GraphLift

/-- How deep the instances of node templates may be nested. -/
def maxDepth : Nat := 32

/-- A template without circles, and the prefix table to expand its references with. -/
structure Mapper where
  template : ResourceTemplate
  table : PrefixTable
  acyclic : template.findCycle = none

namespace Mapper

/-- The mapper of a template, unless its node templates refer to each other in a circle. -/
def ofTemplate (t : ResourceTemplate) (table : PrefixTable) : Except Failure Mapper :=
  match h : t.findCycle with
  | none => .ok ⟨t, table, h⟩
  | some circle => .error (.mapping (.cyclic circle))

variable [Library]

/-! ## Descriptions -/

/-- The IRI of a type. A type that does not expand is reported. -/
def typeIri (table : PrefixTable) : Option Reference → Traced (Option String)
  | none => pure none
  | some (.other _) => throw (.shape .notTrimmable)
  | some (.text r) => do
    let iri ← Traced.lift (table.expand r)
    if iri.isNone then Traced.report (.typeUnknown r)
    return iri

/-- The statement of a property, whose objects `objects` gives; none if the predicate does not expand. -/
def statement (table : PrefixTable) (objects : Property → Traced (List Value)) (key : String)
    (p : Property) : Traced (Option Statement) := do
  match ← Traced.lift (table.expand p.predicate) with
  | none =>
    Traced.report (.predicateUnknown key p.predicate)
    return none
  | some predicate => return some (.mk predicate (← objects p))

/-- The statements of properties, in order. -/
def statements (table : PrefixTable) (objects : Property → Traced (List Value)) :
    List (String × Property) → Traced (List Statement)
  | [] => pure []
  | (key, p) :: rest => do
    let head ← statement table objects key p
    let tail ← statements table objects rest
    return head.toList ++ tail

/-- The objects of a property, when instances of node templates may be nested `room` levels deep. -/
def objects (t : ResourceTemplate) (table : PrefixTable) (f : Finder) :
    (room : Nat) → Property → Traced (List Value)
  | room, p =>
    if p.kind = .nodeRef then
      match p.node.bind t.node? with
      | none => do
        Traced.report (.nodeUnknown p.node p.predicate)
        return []
      | some n =>
        match room with
        | 0 => throw (.mapping (.tooDeep maxDepth n.id))
        | room + 1 => do
          (← Traced.lift (n.candidates f)).mapM fun base => do
            let identity ← n.identify base f
            let type ← typeIri table (n.typeRef.map .text)
            let said ← statements table (objects t table f room) n.properties
            return .resource (.mk identity type said)
    else p.terms table f

section

variable {t : ResourceTemplate} {table : PrefixTable} {f : Finder} {room : Nat} {p : Property} {n : NodeTemplate}

/-- The objects of a property that refers to no node template are its values. -/
theorem objects_of_ne (hkind : p.kind ≠ .nodeRef) : objects t table f room p = p.terms table f := by
  unfold objects
  rw [if_neg hkind]

/-- A reference that leads nowhere is reported, and gives nothing. -/
theorem objects_of_unknown (hkind : p.kind = .nodeRef) (hnode : p.node.bind t.node? = none) :
    objects t table f room p = Traced.report (.nodeUnknown p.node p.predicate) >>= fun _ => pure [] := by
  unfold objects
  rw [if_pos hkind, hnode]

/-- Without room, a reference that leads somewhere is an error. -/
theorem objects_of_full (hkind : p.kind = .nodeRef) (hnode : p.node.bind t.node? = some n) :
    objects t table f 0 p = throw (.mapping (.tooDeep maxDepth n.id)) := by
  unfold objects
  rw [if_pos hkind, hnode]

/-- Otherwise there is one resource for each candidate, which is described with less room. -/
theorem objects_of_node (hkind : p.kind = .nodeRef) (hnode : p.node.bind t.node? = some n) :
    objects t table f (room + 1) p = Traced.lift (n.candidates f) >>= fun bases => bases.mapM fun base => do
      let identity ← n.identify base f
      let type ← typeIri table (n.typeRef.map .text)
      let said ← statements table (objects t table f room) n.properties
      return .resource (.mk identity type said) := by
  unfold objects
  rw [if_pos hkind, hnode]

omit [Library] in
/-- Properties as their objects are described. What holds of a property may be known of those of the node template that it
    refers to, with less room. -/
theorem objects_induction (t : ResourceTemplate) {motive : Nat → Property → Prop}
    (value : ∀ room p, p.kind ≠ .nodeRef → motive room p)
    (unknown : ∀ room p, p.kind = .nodeRef → p.node.bind t.node? = none → motive room p)
    (full : ∀ p n, p.kind = .nodeRef → p.node.bind t.node? = some n → motive 0 p)
    (node : ∀ room p n, p.kind = .nodeRef → p.node.bind t.node? = some n → (∀ q, motive room q) → motive (room + 1) p)
    (room : Nat) (p : Property) : motive room p := by
  induction room generalizing p with
  | zero =>
    by_cases hkind : p.kind = .nodeRef
    · cases hnode : p.node.bind t.node? with
      | none => exact unknown 0 p hkind hnode
      | some n => exact full p n hkind hnode
    · exact value 0 p hkind
  | succ room ih =>
    by_cases hkind : p.kind = .nodeRef
    · cases hnode : p.node.bind t.node? with
      | none => exact unknown (room + 1) p hkind hnode
      | some n => exact node room p n hkind hnode ih
    · exact value (room + 1) p hkind

end

/-- What a template says of the resource in one scope. -/
def describeScope (m : Mapper) (f : Finder) : Traced Description := do
  let identity ← m.template.subject.identity f
  let type ← typeIri m.table m.template.typeRef
  let said ← statements m.table (objects m.template m.table f maxDepth) m.template.properties
  return .mk identity type said

/-- The scopes of a document: the matches of the scope path, or the document itself. -/
def scopes (m : Mapper) (f : Finder) : Traced (List Finder) :=
  match notBlank? m.template.scopePath with
  | none => pure [f]
  | some path => do
    let found ← Traced.lift (f.nodes (Text.trim path))
    if found.isEmpty then Traced.report (.scopeEmpty path)
    return found.map f.moveTo

/-- What a template says of the resources in a document, one per scope. -/
def describe (m : Mapper) (document : Json) : Traced (List Description) := do
  let f ← Traced.lift (Finder.ofDocument document)
  (← m.scopes f).mapM m.describeScope

/-! ## Graphs -/

/-- A graph after mapping: what it holds, its subjects in scope order, and the number of the next blank
    node. -/
structure Mapped where
  graph : Graph
  subjects : List Node
  next : Nat

/-- Maps a document into a graph. -/
def mapInto (m : Mapper) (g : Graph) (next : Nat) (document : Json) : Traced Mapped := do
  let e := emitAll next (← m.describe document)
  return ⟨g.insertAll e.triples, e.value, e.next⟩

/-- Maps a document into a graph of its own, with the namespaces of the prefix table. -/
def build (m : Mapper) (document : Json) : Traced (Graph × Namespaces) := do
  let ns ← Traced.lift (m.table.bindTo .standard)
  return ((← m.mapInto {} 0 document).graph, ns)

end Mapper

end GraphLift
