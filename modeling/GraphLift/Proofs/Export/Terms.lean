import GraphLift.Proofs.Export.Steps
import GraphLift.Proofs.Mapping.Terms

/-! # Which terms an export supplies

    The templates of an export supply terms for its document, and so do its relations, which have predicates of their own.

    * **Supplies** (`Export.Supplies`) are told from the root configuration, the templates that were loaded and the document.
    * **Exports** (`Export.uses_of_build`): their graphs use nothing else, but for blank nodes.
-/

namespace GraphLift

namespace Export

variable [Library]

/-- The terms other than blank nodes that the elements and relations of an export supply for a document. -/
inductive Supplies (root : RootConfig) (loaded : List (Element × ResourceTemplate)) (document : Json) : Term → Prop where
  /-- What the template of an element supplies. -/
  | element {x : Element × ResourceTemplate} {m : Mapper} {y : Term} (loads : x ∈ loaded)
      (mapper : Mapper.ofTemplate x.2 (.ofTexts root.prefixes) = .ok m) (supplies : m.Supplies document y) :
      Supplies root loaded document y
  /-- What the predicate of a relation expands to. -/
  | relation {r : Relation} {reference predicate : String} (related : r ∈ root.relations)
      (written : r.predicate = .text reference)
      (expands : (PrefixTable.ofTexts root.prefixes).expand reference = .ok (some predicate)) :
      Supplies root loaded document (.node (.iri predicate))

/-- An export that comes out well has loaded its templates and bound its prefixes. -/
theorem parts_of_build {root : RootConfig} {load : Traced (List (Element × ResourceTemplate))} {document : Json} {g : Graph}
    {ns : Namespaces} (h : (build root load document).outcome = .ok (g, ns)) :
    ∃ loaded, load.outcome = .ok loaded ∧ (PrefixTable.ofTexts root.prefixes).bindTo .standard = .ok ns := by
  rw [outcome_build, outcome_graph] at h
  simp only [Outcome.bind_eq_ok] at h
  obtain ⟨_, hns, loaded, hloaded, _, _, _, _, h⟩ := h
  cases h
  exact ⟨loaded, hloaded, hns⟩

/-- The graph of an export uses the terms that it supplies, and blank nodes. -/
theorem uses_of_build {root : RootConfig} {load : Traced (List (Element × ResourceTemplate))}
    {loaded : List (Element × ResourceTemplate)} {document : Json} {g : Graph} {ns : Namespaces}
    (hload : load.outcome = .ok loaded) (h : (build root load document).outcome = .ok (g, ns)) {x : Term}
    (hx : g.Uses x) : x.OrBlank (Supplies root loaded document) := by
  rw [outcome_build] at h
  obtain ⟨t, ht, hx⟩ := hx
  refine all_of_graph (P := fun t => ∀ x, t.Uses x → x.OrBlank (Supplies root loaded document))
    (Q := fun n => (Term.node n).OrBlank (Supplies root loaded document)) h ?_ ?_ t ht x hx
  · intro loaded' hloaded' y hy m hm
    cases hload.symm.trans hloaded'
    exact m.adds_supplied document fun z hz => .element hy hm hz
  · -- the ends of a relation are nodes of elements, so that its predicate alone is new
    intro r hr reference predicate s o hwritten hexpands hs ho z hz
    cases hz with
    | subject => exact hs
    | predicate => exact .inl (.relation hr hwritten hexpands)
    | object => exact ho

end Export

end GraphLift
