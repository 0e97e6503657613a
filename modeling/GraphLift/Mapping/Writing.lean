import GraphLift.Mapping.Mapper
import GraphLift.Report.Stateful

/-! # Mapping, triple by triple

    A mapper can also write into a graph as it goes along: a triple is in the graph as soon as it is known, and a
    blank node gets its number when it is made. Such a run leaves something behind even if it fails.

    * **A store** is what there is at a moment of a run.
    * **Depth** counts up. The resource of a scope is at depth zero, and the instances of the node templates that its
      properties refer to are one deeper. Nothing is made at a depth beyond `maxDepth`.
    * **`Mapper.write`** takes the steps in the order in which they have an effect: what is said of an object is
      written before the triple that attaches it.
    * **Objects** are written in one of four cases (`Mapper.writeObjects_of_ne` and so on), which are those of an
      induction over a property and its depth (`Mapper.writeObjects_induction`).
-/

namespace GraphLift

/-- What there is at a moment of a run. -/
structure Store where
  graph : Graph
  /-- The number of the next blank node. -/
  next : Nat
  records : List Record
  /-- The depths of the resources that were made of scopes and node templates so far. -/
  depths : List Nat

/-- A graph before anything is written into it. -/
def Store.start (g : Graph) (next : Nat) : Store := ⟨g, next, [], []⟩

/-- A run that writes into a store, and leaves a store behind also when it fails. -/
abbrev Writing := EStateM Failure Store

namespace Writing

variable {α : Type}

/-- Runs something that writes nothing, and keeps its reports. -/
def consult (x : Traced α) : Writing α := fun s =>
  match x.outcome with
  | .ok a => .ok a { s with records := s.records ++ x.records }
  | .error e => .error e { s with records := s.records ++ x.records }

/-- The node of an identity; one without name takes the next number. -/
def make (i : Identity) : Writing Node := fun s =>
  .ok (i.name s.next).1 { s with next := (i.name s.next).2 }

/-- Writes a triple. -/
def add (t : Triple) : Writing Unit := fun s => .ok () { s with graph := s.graph.insert t }

/-- Notes that a resource is made at a depth. -/
def enter (depth : Nat) : Writing Unit := fun s => .ok () { s with depths := s.depths ++ [depth] }

/-- What comes out of a run. -/
def outcome (w : Writing α) (s : Store) : Except Failure α :=
  match w s with
  | .ok a _ => .ok a
  | .error e _ => .error e

/-- What a run leaves behind. -/
def after (w : Writing α) (s : Store) : Store :=
  match w s with
  | .ok _ s' => s'
  | .error _ s' => s'

/-! ## Laws -/

variable {β : Type}

theorem outcome_eq (w : Writing α) (s : Store) : w.outcome s = Stateful.outcome w s := by
  unfold outcome Stateful.outcome
  cases w s <;> rfl

theorem after_eq (w : Writing α) (s : Store) : w.after s = Stateful.after w s := by
  unfold after Stateful.after
  cases w s <;> rfl

theorem outcome_bind (w : Writing α) (k : α → Writing β) (s : Store) :
    (w >>= k).outcome s = w.outcome s >>= fun a => (k a).outcome (w.after s) := by
  simp only [outcome_eq, after_eq]
  exact Stateful.outcome_bind w k s

theorem after_bind_of_ok {w : Writing α} {s : Store} {a : α} (h : w.outcome s = .ok a) (k : α → Writing β) :
    (w >>= k).after s = (k a).after (w.after s) := by
  rw [outcome_eq] at h
  simp only [after_eq]
  exact Stateful.after_bind_of_ok h k

theorem after_bind_of_error {w : Writing α} {s : Store} {e : Failure} (h : w.outcome s = .error e)
    (k : α → Writing β) : (w >>= k).after s = w.after s := by
  rw [outcome_eq] at h
  simp only [after_eq]
  exact Stateful.after_bind_of_error h k

@[simp] theorem outcome_consult (x : Traced α) (s : Store) : (consult x).outcome s = x.outcome := by
  unfold outcome consult
  cases x.outcome with
  | ok a => rfl
  | error e => rfl

@[simp] theorem after_consult (x : Traced α) (s : Store) :
    (consult x).after s = { s with records := s.records ++ x.records } := by
  unfold after consult
  cases x.outcome with
  | ok a => rfl
  | error e => rfl

end Writing

open Writing

/-- The term of a value of a property, of which nothing is said besides. -/
def Value.make : Value → Writing Term
  | .literal l => pure (.literal l)
  | .resource (.mk identity _ _) => return .node (← Writing.make identity)

namespace Mapper

variable [Library]

/-- Writes a property of a node, whose objects `objects` writes; nothing if the predicate does not expand. -/
def writeProperty (table : PrefixTable) (objects : Property → Writing (List Term)) (node : Node) (key : String)
    (p : Property) : Writing Unit := do
  match ← consult (Traced.lift (table.expand p.predicate)) with
  | none => consult (Traced.report (.predicateUnknown key p.predicate))
  | some predicate => (← objects p).forM fun o => add ⟨node, predicate, o⟩

/-- Writes a resource at a depth: its node, its type and its properties. -/
def writeResource (table : PrefixTable) (objects : Property → Writing (List Term)) (depth : Nat)
    (identity : Traced Identity) (type : Option Reference) (properties : List (String × Property)) :
    Writing Node := do
  let node ← make (← consult identity)
  enter depth
  (typeTriples node (← consult (typeIri table type))).forM add
  properties.forM fun p => writeProperty table objects node p.1 p.2
  return node

/-- Writes the objects of a property of a resource at a depth. -/
def writeObjects (t : ResourceTemplate) (table : PrefixTable) (f : Finder) (depth : Nat) (p : Property) :
    Writing (List Term) :=
  if p.kind = .nodeRef then
    match p.node.bind t.node? with
    | none => do
      consult (Traced.report (.nodeUnknown p.node p.predicate))
      return []
    | some n =>
      if _ : depth < maxDepth then do
        (← consult (Traced.lift (n.candidates f))).mapM fun base => do
          let node ← writeResource table (fun q => writeObjects t table f (depth + 1) q) (depth + 1)
            (n.identify base f) (n.typeRef.map .text) n.properties
          return .node node
      else throw (.mapping (.tooDeep maxDepth n.id))
  else do (← consult (p.terms table f)).mapM Value.make
termination_by maxDepth - depth

section

variable {t : ResourceTemplate} {table : PrefixTable} {f : Finder} {depth : Nat} {p : Property} {n : NodeTemplate}

/-- The values of a property that refers to no node template are its objects. -/
theorem writeObjects_of_ne (hkind : p.kind ≠ .nodeRef) :
    writeObjects t table f depth p = consult (p.terms table f) >>= fun vs => vs.mapM Value.make := by
  unfold writeObjects
  rw [if_neg hkind]

/-- A reference that leads nowhere is reported, and nothing is written. -/
theorem writeObjects_of_unknown (hkind : p.kind = .nodeRef) (hnode : p.node.bind t.node? = none) :
    writeObjects t table f depth p =
      consult (Traced.report (.nodeUnknown p.node p.predicate)) >>= fun _ => pure [] := by
  unfold writeObjects
  rw [if_pos hkind, hnode]

/-- At the greatest depth, a reference that leads somewhere is an error. -/
theorem writeObjects_of_deep (hkind : p.kind = .nodeRef) (hnode : p.node.bind t.node? = some n)
    (hdepth : ¬ depth < maxDepth) : writeObjects t table f depth p = throw (.mapping (.tooDeep maxDepth n.id)) := by
  unfold writeObjects
  rw [if_pos hkind, hnode]
  exact dif_neg hdepth

/-- Otherwise a resource is written for each candidate, one deeper. -/
theorem writeObjects_of_node (hkind : p.kind = .nodeRef) (hnode : p.node.bind t.node? = some n)
    (hdepth : depth < maxDepth) :
    writeObjects t table f depth p = consult (Traced.lift (n.candidates f)) >>= fun bases => bases.mapM fun base => do
      let node ← writeResource table (writeObjects t table f (depth + 1)) (depth + 1) (n.identify base f)
        (n.typeRef.map .text) n.properties
      return .node node := by
  conv =>
    lhs
    unfold writeObjects
  rw [if_pos hkind, hnode]
  exact dif_pos hdepth

omit [Library] in
/-- Properties as their objects are written. What holds of a property may be known of all properties one deeper. -/
theorem writeObjects_induction (t : ResourceTemplate) {motive : Nat → Property → Prop}
    (value : ∀ depth p, p.kind ≠ .nodeRef → motive depth p)
    (unknown : ∀ depth p, p.kind = .nodeRef → p.node.bind t.node? = none → motive depth p)
    (deep : ∀ depth p n, p.kind = .nodeRef → p.node.bind t.node? = some n → ¬ depth < maxDepth → motive depth p)
    (node : ∀ depth p n, p.kind = .nodeRef → p.node.bind t.node? = some n → depth < maxDepth →
      (∀ q, motive (depth + 1) q) → motive depth p)
    (depth : Nat) (p : Property) : motive depth p := by
  induction hroom : maxDepth - depth using Nat.strongRecOn generalizing depth p with
  | _ room ih =>
    by_cases hkind : p.kind = .nodeRef
    · cases hnode : p.node.bind t.node? with
      | none => exact unknown depth p hkind hnode
      | some n =>
        by_cases hdepth : depth < maxDepth
        · exact node depth p n hkind hnode hdepth fun q => ih (maxDepth - (depth + 1)) (by omega) (depth + 1) q rfl
        · exact deep depth p n hkind hnode hdepth
    · exact value depth p hkind

end

/-- Writes the resource of a scope. -/
def writeScope (m : Mapper) (f : Finder) : Writing Node :=
  writeResource m.table (writeObjects m.template m.table f 0) 0 (m.template.subject.identity f) m.template.typeRef
    m.template.properties

/-- Writes the resources of a document, and gives their nodes in scope order. -/
def write (m : Mapper) (document : Json) : Writing (List Node) := do
  let f ← consult (Traced.lift (Finder.ofDocument document))
  (← consult (m.scopes f)).mapM m.writeScope

end Mapper

end GraphLift
