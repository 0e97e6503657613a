import GraphLift.Proofs.Export.Contents
import GraphLift.Proofs.Mapping.Derivation

/-! # What the steps of an export keep

    An export adds to one graph step by step, and notes the subjects of its elements on the way. What every step keeps holds
    of the whole graph at last.

    * **Elements** (`Progress.Keeps.mapElement`) add what their mappers add (`Mapper.Adds`), and note their subjects.
    * **Relations** (`Progress.Keeps.relate`) add links between nodes that were noted.
    * **Exports** (`all_of_graph`) begin with nothing, and copy what was gathered.
-/

namespace GraphLift

namespace Export

variable {table : PrefixTable} {document : Json} {P : Triple → Prop} {Q : Node → Prop} {p q : Progress}

/-- The triples so far are of a kind, and so are the subjects of the elements so far. -/
structure Progress.Keeps (P : Triple → Prop) (Q : Node → Prop) (p : Progress) : Prop where
  triples : ∀ t ∈ p.graph.triples, P t
  subjects : ∀ x ∈ p.subjects, ∀ n ∈ x.2, Q n

theorem Progress.keeps_empty : ({} : Progress).Keeps P Q := by
  constructor
  · intro t ht
    cases ht
  · intro x hx
    cases hx

theorem Progress.Keeps.subjectsOf (hp : p.Keeps P Q) {id : String} {n : Node} (hn : n ∈ p.subjectsOf id) : Q n := by
  unfold Progress.subjectsOf Json.lookup at hn
  cases hfound : p.subjects.find? fun x => x.1 == id with
  | none =>
    rw [hfound] at hn
    cases hn
  | some x =>
    rw [hfound] at hn
    exact hp.subjects x (List.mem_of_find?_eq_some hfound) n hn

/-- An element adds what its mapper adds. -/
theorem Progress.Keeps.mapElement [Library] {x : Element × ResourceTemplate} (hp : p.Keeps P Q)
    (hadds : ∀ m, Mapper.ofTemplate x.2 table = .ok m → m.Adds document P Q)
    (h : (mapElement table document p x).outcome = .ok q) : q.Keeps P Q := by
  simp only [Export.mapElement, Traced.outcome_bind, Traced.outcome_lift, Outcome.bind_eq_ok] at h
  obtain ⟨m, hm, r, hr, _, _, h⟩ := h
  cases h
  obtain ⟨htriples, hsubjects⟩ := (hadds m hm).mapInto hp.triples hr
  refine ⟨htriples, ?_⟩
  -- the subjects that are noted are those of this element, or they were there before
  intro y hy n hn
  rcases Json.mem_put hy with hnew | hold
  · rw [hnew] at hn
    exact hsubjects n hn
  · exact hp.subjects y hold n hn

/-- The links of a relation are between nodes that were noted, by what its predicate expands to. -/
theorem Progress.Keeps.relate {r : Relation} (hp : p.Keeps P Q)
    (hlinks : ∀ reference predicate s o, r.predicate = .text reference → table.expand reference = .ok (some predicate) →
      Q s → Q o → P ⟨s, predicate, .node o⟩)
    (h : (relate table p r).outcome = .ok q) : q.Keeps P Q := by
  rw [outcome_relate] at h
  obtain ⟨l, hl, rfl⟩ := Outcome.map_eq_ok.mp h
  refine ⟨?_, hp.subjects⟩
  intro t ht
  obtain ⟨added, heq, hadded⟩ := p.graph.exists_added (linksOf p.subjectsOf l)
  have hmem : t ∈ p.graph.triples ++ added := heq ▸ ht
  rcases List.mem_append.mp hmem with ht | ht
  · exact hp.triples t ht
  · obtain ⟨predicate, s, o, hpredicate, hs, ho, rfl⟩ := mem_linksOf.mp (hadded t ht)
    unfold expandRelation at hl
    split at hl
    · next reference hreference =>
      obtain ⟨expanded, hexpanded, rfl⟩ := Outcome.map_eq_ok.mp hl
      cases hpredicate
      exact hlinks reference predicate s o hreference hexpanded (hp.subjectsOf hs) (hp.subjectsOf ho)
    · cases hl

/-- What elements and relations add is of a kind in the whole graph, if the mappers of the templates that were loaded add
    such triples only, and links between nodes of theirs are such triples. -/
theorem all_of_graph [Library] {root : RootConfig} {load : Traced (List (Element × ResourceTemplate))} {g : Graph}
    {ns : Namespaces} (h : (graph root load document).outcome = .ok (g, ns))
    (helements : ∀ loaded, load.outcome = .ok loaded → ∀ x ∈ loaded, ∀ m,
      Mapper.ofTemplate x.2 (.ofTexts root.prefixes) = .ok m → m.Adds document P Q)
    (hlinks : ∀ r ∈ root.relations, ∀ reference predicate s o, r.predicate = .text reference →
      (PrefixTable.ofTexts root.prefixes).expand reference = .ok (some predicate) → Q s → Q o →
        P ⟨s, predicate, .node o⟩) : ∀ t ∈ g.triples, P t := by
  simp only [graph, Traced.outcome_bind, Traced.outcome_lift, Traced.outcome_foldlM, Outcome.bind_eq_ok] at h
  obtain ⟨_, _, loaded, hloaded, mapped, hmapped, linked, hlinked, _, _, h⟩ := h
  cases h
  -- relations come after all elements, since they link the subjects that these have noted
  have hmapped' : mapped.Keeps P Q := by
    refine Outcome.foldlM_preserves (fun x hx p q hp hq => ?_) Progress.keeps_empty hmapped
    exact hp.mapElement (helements loaded hloaded x hx) hq
  have hlinked' : linked.Keeps P Q := by
    refine Outcome.foldlM_preserves (fun r hr p q hp hq => ?_) hmapped' hlinked
    exact hp.relate (hlinks r hr) hq
  intro t ht
  -- the copy into an empty graph holds nothing that was not gathered
  obtain ⟨added, heq, hadded⟩ := ({} : Graph).exists_added linked.graph.triples
  have hmem : t ∈ added := by
    have hcopy : t ∈ [] ++ added := heq ▸ ht
    exact hcopy
  exact hlinked'.triples t (hadded t hmem)

end Export

end GraphLift
