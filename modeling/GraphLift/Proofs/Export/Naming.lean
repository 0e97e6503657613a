import GraphLift.Proofs.Export.Order
import GraphLift.Proofs.Export.Steps
import GraphLift.Proofs.Mapping.Naming

/-! # What the resources of an export are named by

    The graph of an export is well named at every step of its construction. Links lead between subjects of elements,
    so that these have to be well named, too.

    * **Elements** add what mappers add, which is well named (`Mapper.adds_wellNamed`).
    * **Relations** add links between subjects.
    * **Exports** (`build_wellNamed`): subjects are blank nodes or have absolute IRIs, and so have objects except types.
-/

namespace GraphLift

namespace Export

/-- From the empty graph on, elements and then relations keep a graph well named. -/
theorem wellNamed_graph [Library] {root : RootConfig} {load : Traced (List (Element × ResourceTemplate))}
    {document : Json} {g : Graph} {ns : Namespaces} (h : (graph root load document).outcome = .ok (g, ns)) :
    ∀ t ∈ g.triples, t.WellNamed := by
  apply all_of_graph (P := Triple.WellNamed) (Q := Node.WellNamed) h
  · intro _ _ _ _ m _
    exact m.adds_wellNamed document
  · intro _ _ _ _ s o _ _ hs ho
    refine ⟨hs, ?_⟩
    intro _ n hn
    cases hn
    exact ho

/-- **Names are absolute IRIs.** Whatever the templates of an export and its document say: every subject in its graph is
    a blank node, or has an IRI that is a scheme, a colon and characters of one line. The same goes for every object
    that is no literal, unless the triple gives a type. None of these IRIs is blank. -/
theorem build_wellNamed [Library] (root : RootConfig) (load : Traced (List (Element × ResourceTemplate))) (document : Json)
    (g : Graph) (ns : Namespaces) (h : (build root load document).outcome = .ok (g, ns)) :
    ∀ t ∈ g.triples, t.subject.WellNamed ∧
      (t.predicate ≠ rdfType → ∀ n, t.object = .node n → n.WellNamed) ∧
      (∀ s, t.subject = .iri s ∨ (t.predicate ≠ rdfType ∧ t.object = .node (.iri s)) → Text.isBlank s = false) := by
  rw [outcome_build] at h
  intro t ht
  obtain ⟨hsubject, hobject⟩ := wellNamed_graph h t ht
  refine ⟨hsubject, hobject, ?_⟩
  intro s hs
  rcases hs with hs | ⟨hpredicate, hs⟩
  · rw [hs] at hsubject
    exact hsubject.not_blank
  · exact (hobject hpredicate _ hs).not_blank

/-- The template of a resource that has a name, and a place that is given by an IRI and by a text that is none. -/
def ofNamed : ResourceTemplate where
  subject := { const := some "urn:thing" }
  properties := [
    ("at", { kind := .iri, predicate := "e:at", const := some "some place" }),
    ("in", { kind := .iri, predicate := "e:in", const := some "urn:place" })]

/-- The text that is no IRI names nothing, for neither of the elements, while their subjects are linked by name. -/
theorem exists_build_ofNamed :
    ∃ g ns, (build (ofPair [whole, part]) (pure [(whole, ofNamed), (part, ofNamed)]) (.object [])).outcome =
        .ok (g, ns) ∧
      g.triples = [
        ⟨.iri "urn:thing", "http://example.org/at", .node (.blank 0)⟩,
        ⟨.iri "urn:thing", "http://example.org/in", .node (.iri "urn:place")⟩,
        ⟨.iri "urn:thing", "http://example.org/at", .node (.blank 1)⟩,
        ⟨.iri "urn:thing", "http://example.org/has", .node (.iri "urn:thing")⟩] := by
  refine ⟨_, _, rfl, ?_⟩
  decide

theorem build_wellNamed_ofNamed :
    ∃ g ns, (build (ofPair [whole, part]) (pure [(whole, ofNamed), (part, ofNamed)]) (.object [])).outcome =
        .ok (g, ns) ∧ g.triples.length = 4 ∧
      ∀ t ∈ g.triples, t.subject.WellNamed ∧
        (t.predicate ≠ rdfType → ∀ n, t.object = .node n → n.WellNamed) ∧
        (∀ s, t.subject = .iri s ∨ (t.predicate ≠ rdfType ∧ t.object = .node (.iri s)) → Text.isBlank s = false) := by
  obtain ⟨g, ns, hbuild, htriples⟩ := exists_build_ofNamed
  refine ⟨g, ns, hbuild, ?_, build_wellNamed _ _ _ g ns hbuild⟩
  rw [htriples]
  rfl

end Export

end GraphLift
