import GraphLift.Export.Build
import GraphLift.Proofs.Description.Rearrangement
import GraphLift.Proofs.Json.Names
import GraphLift.Proofs.Mapping.Order
import GraphLift.Proofs.Rdf.Graph

/-! # What an export holds

    The graph of an export is built in steps, each of which starts from the graph and the number that the one before
    left behind. Whether a step comes out well does not depend on that, nor does what it says.

    * **Elements** (`outcome_mapElements`) are described first, and what comes out of the descriptions is put together
      then.
    * **Relations** (`outcome_relations`) are expanded first, and the links are put together then.
    * **The graph** (`holds_contents`) holds what comes out of the descriptions, and the links between the nodes of
      their groups.
-/

namespace GraphLift

namespace Export

variable {table : PrefixTable} {document : Json}

/-! ## Elements -/

/-- The descriptions of an element under its name. -/
def describeGroup [Library] (table : PrefixTable) (document : Json) (x : Element × ResourceTemplate) :
    Except Failure (String × List Description) :=
  (x.2.describe table document).map fun ds => (x.1.id, ds)

/-- The progress with one more group of descriptions. -/
def Progress.add (p : Progress) (x : String × List Description) : Progress :=
  let e := emitGroup p.next x
  ⟨p.graph.insertAll e.triples, Json.put x.1 e.value.2 p.subjects, e.next⟩

theorem foldl_add (groups : List (String × List Description)) (p : Progress) :
    groups.foldl Progress.add p =
      ⟨p.graph.insertAll (emitList emitGroup p.next groups).triples,
        (emitList emitGroup p.next groups).value.foldl (fun t x => Json.put x.1 x.2 t) p.subjects,
        (emitList emitGroup p.next groups).next⟩ := by
  induction groups generalizing p with
  | nil => rfl
  | cons x rest ih =>
    rw [List.foldl_cons, ih]
    simp only [emitList, Progress.add, Graph.insertAll, List.foldl_append, List.foldl_cons]
    rfl

/-- The names of groups are those of their nodes. -/
theorem names_emitGroups (groups : List (String × List Description)) (next : Nat) :
    (emitList emitGroup next groups).value.map (·.1) = groups.map (·.1) := by
  induction groups generalizing next with
  | nil => rfl
  | cons x rest ih =>
    rw [emitList, List.map_cons, List.map_cons, ih]
    rfl

variable {groups : List (String × List Description)}

theorem nodup_emitGroups (hdistinct : (groups.map (·.1)).Nodup) :
    ((emitList emitGroup 0 groups).value.map (·.1)).Nodup := by
  rw [names_emitGroups]
  exact hdistinct

/-- As names differ, no group takes the place of another one. -/
theorem lookup_subjects (hdistinct : (groups.map (·.1)).Nodup) (id : String) :
    Json.lookup id (groups.foldl Progress.add {}).subjects = Json.lookup id (emitList emitGroup 0 groups).value := by
  rw [foldl_add]
  exact Json.lookup_collect (nodup_emitGroups hdistinct) id

/-- The subjects of an element are the nodes of its group, if the names of groups differ. -/
theorem mem_subjectsOf (hdistinct : (groups.map (·.1)).Nodup) {id : String} {s : Node} :
    s ∈ (groups.foldl Progress.add {}).subjectsOf id ↔
      ∃ nodes, (id, nodes) ∈ (emitList emitGroup 0 groups).value ∧ s ∈ nodes := by
  have hnames := nodup_emitGroups hdistinct
  unfold Progress.subjectsOf
  rw [lookup_subjects hdistinct]
  cases hnodes : Json.lookup id (emitList emitGroup 0 groups).value with
  | none =>
    constructor
    · intro h
      cases h
    · intro h
      obtain ⟨nodes, hmem, _⟩ := h
      rw [(Json.lookup_eq_some hnames).mpr hmem] at hnodes
      cases hnodes
  | some nodes =>
    constructor
    · intro h
      exact ⟨nodes, (Json.lookup_eq_some hnames).mp hnodes, h⟩
    · intro h
      obtain ⟨nodes', hmem, h⟩ := h
      rw [(Json.lookup_eq_some hnames).mpr hmem] at hnodes
      cases hnodes
      exact h

section

variable [Library]

theorem outcome_mapElement (p : Progress) (x : Element × ResourceTemplate) :
    (mapElement table document p x).outcome = (describeGroup table document x).map p.add := by
  unfold mapElement describeGroup ResourceTemplate.describe Mapper.mapInto
  simp only [Traced.outcome_bind, Traced.outcome_lift]
  cases Mapper.ofTemplate x.2 table with
  | error e => rfl
  | ok m =>
    show ((m.describe document).outcome >>= _) >>= _ = _
    cases hm : (m.describe document).outcome with
    | error e => simp only [bind, Except.bind, hm]; rfl
    | ok ds => simp only [bind, Except.bind, hm]; rfl

/-- Elements come out well if all of them can be described, whatever was mapped before. -/
theorem outcome_mapElements (elements : List (Element × ResourceTemplate)) (p : Progress) :
    (elements.foldlM (mapElement table document) p).outcome =
      (elements.mapM (describeGroup table document)).map fun groups => groups.foldl Progress.add p := by
  rw [Traced.outcome_foldlM]
  simp only [outcome_mapElement]
  exact Outcome.foldlM_map elements p

/-- Groups have the names of their elements. -/
theorem names_describeGroups {loaded : List (Element × ResourceTemplate)}
    (h : loaded.mapM (describeGroup table document) = .ok groups) : groups.map (·.1) = loaded.map (·.1.id) := by
  refine ((Outcome.mapM_eq_ok.mp h).map_eq fun x group hgroup => ?_).symm
  obtain ⟨ds, _, hgroup⟩ := Outcome.map_eq_ok.mp hgroup
  rw [← hgroup]

end

/-! ## Relations -/

/-- A relation with what its predicate expands to. -/
def expandRelation (table : PrefixTable) (r : Relation) : Except Failure (Relation × Option String) :=
  match r.predicate with
  | .text reference => (table.expand reference).map fun predicate => (r, predicate)
  | _ => .error (.shape .notTrimmable)

/-- The links of a relation, when `subjects` gives the nodes of every element; none if its predicate does not
    expand. -/
def linksOf (subjects : String → List Node) (l : Relation × Option String) : List Triple :=
  match l.2 with
  | none => []
  | some predicate => links predicate (subjects l.1.subject) (subjects l.1.object)

/-- The progress with the links of one more relation. -/
def Progress.link (p : Progress) (l : Relation × Option String) : Progress :=
  { p with graph := p.graph.insertAll (linksOf p.subjectsOf l) }

theorem outcome_relate (p : Progress) (r : Relation) :
    (relate table p r).outcome = (expandRelation table r).map p.link := by
  unfold relate expandRelation
  obtain ⟨subject, predicate, object⟩ := r
  cases predicate with
  | text reference =>
    simp only [Traced.outcome_bind, Traced.outcome_lift]
    cases table.expand reference with
    | error e => rfl
    | ok predicate => cases predicate <;> rfl
  | _ => rfl

/-- Relations come out well if the predicates of all of them can be expanded or left out. -/
theorem outcome_relations (relations : List Relation) (p : Progress) :
    (relations.foldlM (relate table) p).outcome =
      (relations.mapM (expandRelation table)).map fun ls => ls.foldl Progress.link p := by
  rw [Traced.outcome_foldlM]
  simp only [outcome_relate]
  exact Outcome.foldlM_map relations p

theorem foldl_link (ls : List (Relation × Option String)) (p : Progress) :
    (ls.foldl Progress.link p).graph = p.graph.insertAll (ls.flatMap (linksOf p.subjectsOf)) := by
  induction ls generalizing p with
  | nil => rfl
  | cons l rest ih =>
    rw [List.foldl_cons, ih, List.flatMap_cons]
    unfold Graph.insertAll
    rw [List.foldl_append]
    rfl

/-- The links of a relation lead from every node of the one element to every node of the other. -/
theorem mem_linksOf {subjects : String → List Node} {l : Relation × Option String} {t : Triple} :
    t ∈ linksOf subjects l ↔ ∃ predicate s o, l.2 = some predicate ∧ s ∈ subjects l.1.subject ∧
      o ∈ subjects l.1.object ∧ t = ⟨s, predicate, .node o⟩ := by
  unfold linksOf links
  obtain ⟨r, predicate⟩ := l
  cases predicate with
  | none => simp
  | some predicate =>
    dsimp only
    rw [List.mem_flatMap]
    constructor
    · intro h
      obtain ⟨s, hs, h⟩ := h
      obtain ⟨o, ho, rfl⟩ := List.mem_map.mp h
      exact ⟨predicate, s, o, rfl, hs, ho, rfl⟩
    · intro h
      obtain ⟨_, s, o, hpredicate, hs, ho, rfl⟩ := h
      cases hpredicate
      exact ⟨s, hs, List.mem_map.mpr ⟨o, ho, rfl⟩⟩

/-! ## The graph -/

/-- The graph of groups of descriptions and relations. -/
def contents (groups : List (String × List Description)) (ls : List (Relation × Option String)) : Graph :=
  (ls.foldl Progress.link (groups.foldl Progress.add {})).graph

/-- An export says no triple twice. -/
theorem distinct_contents (groups : List (String × List Description)) (ls : List (Relation × Option String)) :
    (contents groups ls).Distinct := by
  unfold contents
  rw [foldl_link, foldl_add]
  exact (Graph.distinct_empty.insertAll _).insertAll _

section

variable [Library]

/-- With its trace on, an export reports more and gives the same. -/
theorem outcome_build (root : RootConfig) (load : Traced (List (Element × ResourceTemplate))) (document : Json) :
    (build root load document).outcome = (graph root load document).outcome := by
  unfold build
  split
  · rfl
  · rfl

/-- What an export gives, element by element and relation by relation. Prefixes that could be bound once can be bound again,
    and the copy of what was gathered is the same graph. -/
theorem outcome_graph (root : RootConfig) (load : Traced (List (Element × ResourceTemplate))) (document : Json) :
    (graph root load document).outcome =
      (PrefixTable.ofTexts root.prefixes).bindTo .standard >>= fun ns =>
        load.outcome >>= fun elements =>
          elements.mapM (describeGroup (.ofTexts root.prefixes) document) >>= fun groups =>
            root.relations.mapM (expandRelation (.ofTexts root.prefixes)) >>= fun ls =>
              .ok (contents groups ls, ns) := by
  unfold graph
  simp only [Traced.outcome_bind, Traced.outcome_lift, outcome_mapElements, outcome_relations]
  -- every part runs by itself, so that the first one that fails ends both sides
  cases (PrefixTable.ofTexts root.prefixes).bindTo .standard with
  | error e => rfl
  | ok ns =>
    cases load.outcome with
    | error e => rfl
    | ok elements =>
      show ((elements.mapM (describeGroup _ document)).map _ >>= _) = elements.mapM (describeGroup _ document) >>= _
      cases elements.mapM (describeGroup (.ofTexts root.prefixes) document) with
      | error e => rfl
      | ok groups =>
        show ((root.relations.mapM (expandRelation _)).map _ >>= _) = root.relations.mapM (expandRelation _) >>= _
        cases root.relations.mapM (expandRelation (.ofTexts root.prefixes)) with
        | error e => rfl
        | ok ls => exact congrArg (fun g => Except.ok (g, ns)) (distinct_contents groups ls).copy

end

/-- The triples that groups of descriptions and relations give. -/
def Given (groups : List (String × List Description)) (ls : List (Relation × Option String)) (t : Triple) : Prop :=
  t ∈ (emitList emitGroup 0 groups).triples ∨
    ∃ l ∈ ls, t ∈ linksOf (groups.foldl Progress.add {}).subjectsOf l

theorem holds_contents {groups : List (String × List Description)} {ls : List (Relation × Option String)}
    {t : Triple} : (contents groups ls).holds t = true ↔ ∃ u, Given groups ls u ∧ t.same u = true := by
  unfold contents Given
  rw [foldl_link, Graph.holds_insertAll, show (groups.foldl Progress.add {}).graph =
    ({} : Graph).insertAll (emitList emitGroup 0 groups).triples from by rw [foldl_add], Graph.holds_insertAll]
  simp only [List.mem_flatMap, or_and_right, exists_or]
  refine or_congr ?_ Iff.rfl
  constructor
  · intro h
    rcases h with h | h
    · cases h
    · exact h
  · exact .inr

end Export

end GraphLift
