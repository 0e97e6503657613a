import GraphLift.Proofs.Mapping.Provenance

/-! # Which terms a template supplies

    What can become of a document is known from the template, the prefix table and the scopes, before any graph is made.

    * **Scopes** (`Mapper.SuppliesAt`): the names of subjects and of instances of node templates, the types and predicates
      that expand, and the values of properties.
    * **Derivations** (`Mapper.Derives.supplies`) use such terms only, and blank nodes.
    * **Mapping** (`Mapper.adds_supplied`) brings no others into a graph.
-/

namespace GraphLift

/-- The property is one of the template, or one of a node template. -/
inductive ResourceTemplate.Owns (t : ResourceTemplate) (p : Property) : Prop where
  | outer {key : String} (property : (key, p) ∈ t.properties) : Owns t p
  | inner {n : NodeTemplate} {key : String} (node : n ∈ t.nodes) (property : (key, p) ∈ n.properties) : Owns t p

/-- The reference is the type of the template, or that of a node template. -/
inductive ResourceTemplate.Types (t : ResourceTemplate) (reference : String) : Prop where
  | outer (typed : t.typeRef = some (.text reference)) : Types t reference
  | inner {n : NodeTemplate} (node : n ∈ t.nodes) (typed : n.typeRef = some reference) : Types t reference

variable [Library]

namespace Mapper

/-- The terms other than blank nodes that a template supplies in a scope. -/
inductive SuppliesAt (m : Mapper) (f : Finder) : Term → Prop where
  /-- The name of the subject. -/
  | subject {s : String} (identified : (m.template.subject.identity f).outcome = .ok (.iri s)) :
      SuppliesAt m f (.node (.iri s))
  /-- The name of an instance of a node template, which need not be referred to. -/
  | inner {n : NodeTemplate} {bases : List (Option String)} {base : Option String} {s : String}
      (node : n ∈ m.template.nodes) (candidates : n.candidates f = .ok bases) (candidate : base ∈ bases)
      (identified : (n.identify base f).outcome = .ok (.iri s)) : SuppliesAt m f (.node (.iri s))
  /-- What a type expands to. -/
  | type {reference type : String} (typed : m.template.Types reference)
      (expands : m.table.expand reference = .ok (some type)) : SuppliesAt m f (.node (.iri type))
  /-- The predicate that gives a type. -/
  | typing : SuppliesAt m f (.node (.iri rdfType))
  /-- What the predicate of a property expands to. -/
  | predicate {p : Property} {predicate : String} (owned : m.template.Owns p)
      (expands : m.table.expand p.predicate = .ok (some predicate)) : SuppliesAt m f (.node (.iri predicate))
  /-- A literal value of a property. -/
  | literal {p : Property} {values : List Value} {l : Literal} (owned : m.template.Owns p)
      (evaluated : (p.terms m.table f).outcome = .ok values) (value : .literal l ∈ values) : SuppliesAt m f (.literal l)
  /-- The name of a resource that is a value of a property. -/
  | resource {p : Property} {values : List Value} {d : Description} {s : String} (owned : m.template.Owns p)
      (evaluated : (p.terms m.table f).outcome = .ok values) (value : .resource d ∈ values)
      (named : d.identity = .iri s) : SuppliesAt m f (.node (.iri s))

/-- The terms that a template supplies for a document, in one of the scopes. -/
def Supplies (m : Mapper) (document : Json) (x : Term) : Prop :=
  ∃ scopes, m.AreScopes document scopes ∧ ∃ f ∈ scopes, m.SuppliesAt f x

variable {m : Mapper} {scopes : List Finder} {ν : Place → Nat} {f : Finder}

/-! ## Occurrences -/

/-- The node of an identity is blank, or the identity names it. -/
theorem suppliesAt_nodeAt {i : Identity} (h : ∀ s, i = .iri s → m.SuppliesAt f (.node (.iri s))) (q : Place) :
    (Term.node (i.nodeAt ν q)).OrBlank (m.SuppliesAt f) := by
  cases i with
  | iri s => exact .inl (h s rfl)
  | fresh => exact .inr ⟨ν q, rfl⟩

theorem Occurs.owns {r : Occurrence} (h : m.Occurs scopes r) {key : String} {p : Property}
    (hp : (key, p) ∈ r.properties) : m.template.Owns p := by
  rcases h.properties_of with hof | ⟨n, hn, hof⟩
  · exact .outer (hof ▸ hp)
  · exact .inner hn (hof ▸ hp)

theorem Occurs.types {r : Occurrence} (h : m.Occurs scopes r) {reference : String}
    (htype : r.type = some (.text reference)) : m.template.Types reference := by
  cases h with
  | subject => exact .outer htype
  | within _ _ inner =>
    -- the type of a node template is a text, or there is none
    cases inner with
    | @intro n _ _ _ _ node _ _ _ =>
      obtain ⟨reference', hreference, heq⟩ := Option.map_eq_some_iff.mp htype
      cases heq
      exact .inner (ResourceTemplate.mem_of_referred node) hreference

/-- Whatever a template describes is named by a term that it supplies in the same scope. -/
theorem Occurs.supplies {r : Occurrence} (h : m.Occurs scopes r) {s : String} (hs : r.identity = .iri s) :
    m.SuppliesAt r.scope (.node (.iri s)) := by
  cases h with
  | subject _ identified =>
    have hidentity : _ = Identity.iri s := hs
    exact .subject (hidentity ▸ identified)
  | within _ _ inner =>
    cases inner with
    | intro _ node candidates candidate identified =>
      have hidentity : _ = Identity.iri s := hs
      exact .inner (ResourceTemplate.mem_of_referred node) candidates (List.mem_of_getElem? candidate)
        (hidentity ▸ identified)

theorem Occurs.supplies_node {r : Occurrence} (h : m.Occurs scopes r) :
    (Term.node (r.node ν)).OrBlank (m.SuppliesAt r.scope) :=
  suppliesAt_nodeAt (fun _ hs => h.supplies hs) r.place

/-- An expandable property of what a template describes is one of the template, and supplies its predicate. -/
theorem Occurs.supplies_predicate {r : Occurrence} (h : m.Occurs scopes r) {j : Nat} {predicate : String} {p : Property}
    (hp : (m.table.expandable r.properties)[j]? = some (predicate, p)) :
    m.template.Owns p ∧ m.SuppliesAt r.scope (.node (.iri predicate)) := by
  obtain ⟨key, hkey, hexpands⟩ := PrefixTable.mem_expandable.mp (List.mem_of_getElem? hp)
  exact ⟨h.owns hkey, .predicate (h.owns hkey) hexpands⟩

/-! ## Derivations -/

/-- What a template derives is made of terms that it supplies in one of the scopes, and of blank nodes. -/
theorem Derives.supplies {t : Triple} (h : m.Derives scopes ν t) {x : Term} (hx : t.Uses x) :
    x.OrBlank fun y => ∃ f ∈ scopes, m.SuppliesAt f y := by
  -- the object of a reference is supplied in a scope of its own, everything else in that of the subject
  cases h with
  | @type r reference type occurs typed expands =>
    refine Or.imp_left (fun hsupplies => ⟨r.scope, occurs.scope_mem, hsupplies⟩) ?_
    cases hx with
    | subject => exact occurs.supplies_node
    | predicate => exact .inl .typing
    | object => exact .inl (.type (occurs.types typed) expands)
  | @value r j k predicate p values v occurs property _ evaluated value =>
    refine Or.imp_left (fun hsupplies => ⟨r.scope, occurs.scope_mem, hsupplies⟩) ?_
    obtain ⟨howned, hpredicate⟩ := occurs.supplies_predicate property
    have hmem := List.mem_of_getElem? value
    cases hx with
    | subject => exact occurs.supplies_node
    | predicate => exact .inl hpredicate
    | object =>
      cases v with
      | literal l => exact .inl (.literal howned evaluated hmem)
      | resource d => exact suppliesAt_nodeAt (fun s hs => .resource howned evaluated hmem hs) _
  | @reference r r' j k predicate p occurs property inner =>
    have hinner : m.Occurs scopes r' := .within occurs property inner
    obtain ⟨_, hpredicate⟩ := occurs.supplies_predicate property
    cases hx with
    | subject => exact occurs.supplies_node.imp_left fun hsupplies => ⟨r.scope, occurs.scope_mem, hsupplies⟩
    | predicate => exact .inl ⟨r.scope, occurs.scope_mem, hpredicate⟩
    | object => exact hinner.supplies_node.imp_left fun hsupplies => ⟨r'.scope, hinner.scope_mem, hsupplies⟩

/-! ## Mapping -/

/-- What a mapper adds to a graph uses terms that it supplies for the document, and blank nodes. -/
theorem adds_supplied (m : Mapper) (document : Json) {S : Term → Prop} (hS : ∀ x, m.Supplies document x → S x) :
    m.Adds document (fun t => ∀ x, t.Uses x → x.OrBlank S) (fun n => (Term.node n).OrBlank S) where
  triples scopes _ _ hscopes ht _ hx :=
    (ht.supplies hx).imp_left fun hsupplies => hS _ ⟨scopes, hscopes, hsupplies⟩
  nodes scopes _ r hscopes hr :=
    hr.supplies_node.imp_left fun hsupplies => hS _ ⟨scopes, hscopes, r.scope, hr.scope_mem, hsupplies⟩

theorem parts_of_build {document : Json} {g : Graph} {ns : Namespaces} (h : (m.build document).outcome = .ok (g, ns)) :
    m.table.bindTo .standard = .ok ns ∧ ∃ r, (m.mapInto {} 0 document).outcome = .ok r ∧ r.graph = g := by
  simp only [build, Traced.outcome_bind, Traced.outcome_lift, Outcome.bind_eq_ok] at h
  obtain ⟨_, hns, r, hr, h⟩ := h
  cases h
  exact ⟨hns, r, hr, rfl⟩

/-- A graph into which a document is mapped by itself uses nothing else. -/
theorem uses_of_build {document : Json} {g : Graph} {ns : Namespaces} (h : (m.build document).outcome = .ok (g, ns))
    {x : Term} (hx : g.Uses x) : x.OrBlank (m.Supplies document) := by
  obtain ⟨_, r, hr, rfl⟩ := parts_of_build h
  obtain ⟨htriples, _⟩ := (m.adds_supplied document fun _ h => h).mapInto (fun t ht => absurd ht List.not_mem_nil) hr
  obtain ⟨t, ht, hx⟩ := hx
  exact htriples t ht x hx

end Mapper

end GraphLift
