import GraphLift.Mapping.Mapper
import GraphLift.Proofs.Description.Emission
import GraphLift.Proofs.Mapping.Success
import GraphLift.Proofs.Outcome
import GraphLift.Proofs.Rdf.Graph

/-! # What a template says of a document

    The rules by which a template makes triples of a document, as derivations, and the mapper beside them.

    * **Occurrences**: the subject of every scope, and the instances of node templates within an occurrence, one
      for every candidate. An occurrence has a place, which is what tells anonymous resources apart.
    * **Derivations** (`Mapper.Derives`): an occurrence has its type, the values of its properties, and the
      instances of the node templates that its properties refer to. Properties whose predicates do not expand
      derive nothing.
    * **Mapping**: the subjects are those of the scopes in order, and the triples that are added are exactly the
      derivable ones. What is emitted is what the parts of the descriptions say, and these are described occurrences
      (`Mapper.said_iff_derives`).
-/

namespace GraphLift

/-- The properties whose predicates expand, each behind what its predicate expands to. -/
def PrefixTable.expandable (table : PrefixTable) (properties : List (String × Property)) :
    List (String × Property) :=
  properties.filterMap fun p =>
    match table.expand p.2.predicate with
    | .ok (some predicate) => some (predicate, p.2)
    | _ => none

theorem PrefixTable.mem_expandable {table : PrefixTable} {properties : List (String × Property)} {predicate : String}
    {p : Property} : (predicate, p) ∈ table.expandable properties ↔
      ∃ key, (key, p) ∈ properties ∧ table.expand p.predicate = .ok (some predicate) := by
  constructor
  · intro h
    obtain ⟨⟨key, p'⟩, hmem, hp⟩ := List.mem_filterMap.mp h
    split at hp
    · next hexpands =>
      cases hp
      exact ⟨key, hmem, hexpands⟩
    · cases hp
  · intro h
    obtain ⟨key, hmem, hexpands⟩ := h
    exact List.mem_filterMap.mpr ⟨(key, p), hmem, by simp only [hexpands]⟩

/-- A resource as a template describes it: where it stands, the scope it is described in, who it is, and the type and
    the properties that the template gives it. -/
structure Occurrence where
  place : Place
  scope : Finder
  identity : Identity
  type : Option Reference
  properties : List (String × Property)

/-- The node of an occurrence, when `ν` numbers the places. -/
def Occurrence.node (ν : Place → Nat) (r : Occurrence) : Node :=
  r.identity.nodeAt ν r.place

section

variable [Library]

namespace Mapper

/-! ## Rules -/

/-- The instance for the `k`-th candidate of the node template that property `p` refers to, which is the `j`-th
    expandable property of `r`. The instance is described in the scope of `r`. -/
inductive Instance (m : Mapper) (r : Occurrence) (j : Nat) (p : Property) (k : Nat) : Occurrence → Prop where
  | intro {n : NodeTemplate} {bases : List (Option String)} {base : Option String} {identity : Identity}
      (kind : p.kind = .nodeRef) (node : p.node.bind m.template.node? = some n)
      (candidates : n.candidates r.scope = .ok bases) (candidate : bases[k]? = some base)
      (identified : (n.identify base r.scope).outcome = .ok identity) :
      Instance m r j p k ⟨r.place ++ [j, k], r.scope, identity, n.typeRef.map .text, n.properties⟩

/-- The resources that a template describes in scopes. -/
inductive Occurs (m : Mapper) (scopes : List Finder) : Occurrence → Prop where
  /-- The subject of the `i`-th scope. -/
  | subject {i : Nat} {f : Finder} {identity : Identity} (scope : scopes[i]? = some f)
      (identified : (m.template.subject.identity f).outcome = .ok identity) :
      Occurs m scopes ⟨[i], f, identity, m.template.typeRef, m.template.properties⟩
  /-- An instance of a node template within an occurrence. -/
  | within {r r' : Occurrence} {j k : Nat} {predicate : String} {p : Property} (outer : Occurs m scopes r)
      (property : (m.table.expandable r.properties)[j]? = some (predicate, p)) (inner : m.Instance r j p k r') :
      Occurs m scopes r'

/-- The triples that a template derives in scopes, when `ν` numbers the places. -/
inductive Derives (m : Mapper) (scopes : List Finder) (ν : Place → Nat) : Triple → Prop where
  /-- An occurrence has its type, if that expands. -/
  | type {r : Occurrence} {reference type : String} (occurs : m.Occurs scopes r)
      (typed : r.type = some (.text reference)) (expands : m.table.expand reference = .ok (some type)) :
      Derives m scopes ν ⟨r.node ν, rdfType, .node (.iri type)⟩
  /-- An occurrence has the values of a property that refers to no node template. -/
  | value {r : Occurrence} {j k : Nat} {predicate : String} {p : Property} {values : List Value} {v : Value}
      (occurs : m.Occurs scopes r)
      (property : (m.table.expandable r.properties)[j]? = some (predicate, p)) (kind : p.kind ≠ .nodeRef)
      (evaluated : (p.terms m.table r.scope).outcome = .ok values) (value : values[k]? = some v) :
      Derives m scopes ν ⟨r.node ν, predicate, v.term ν (r.place ++ [j, k])⟩
  /-- An occurrence has the instances of the node template that a property refers to. -/
  | reference {r r' : Occurrence} {j k : Nat} {predicate : String} {p : Property} (occurs : m.Occurs scopes r)
      (property : (m.table.expandable r.properties)[j]? = some (predicate, p)) (inner : m.Instance r j p k r') :
      Derives m scopes ν ⟨r.node ν, predicate, .node (r'.node ν)⟩

/-- The scopes of a document: the matches of the scope path in order, or the document itself if the path is missing or
    blank. -/
def AreScopes (m : Mapper) (document : Json) (scopes : List Finder) : Prop :=
  match notBlank? m.template.scopePath with
  | none => scopes = [⟨document, document⟩]
  | some path => ∃ found, (Finder.mk document document).nodes (Text.trim path) = .ok found ∧
      scopes = found.map fun v => ⟨document, v⟩

/-- A document has its scopes in one way only. -/
theorem AreScopes.unique {m : Mapper} {document : Json} {scopes scopes' : List Finder}
    (h : m.AreScopes document scopes) (h' : m.AreScopes document scopes') : scopes = scopes' := by
  unfold AreScopes at h h'
  split at h
  · next hpath =>
    rw [hpath] at h'
    exact h.trans h'.symm
  · next path hpath =>
    rw [hpath] at h'
    obtain ⟨found, hfound, rfl⟩ := h
    obtain ⟨found', hfound', rfl⟩ := h'
    rw [hfound] at hfound'
    cases hfound'
    rfl

end Mapper

/-! ## Statements and objects -/

namespace Mapper

omit [Library] in
/-- The statements of properties are those of the expandable ones, each with what its predicate expands to and the
    objects of the property. -/
theorem forall₂_statements {table : PrefixTable} {objects : Property → Traced (List Value)}
    {properties : List (String × Property)} {ss : List Statement}
    (h : (statements table objects properties).outcome = .ok ss) :
    List.Forall₂ (fun x s => s.predicate = x.1 ∧ (objects x.2).outcome = .ok s.objects)
      (table.expandable properties) ss := by
  induction properties generalizing ss with
  | nil =>
    cases h
    exact .nil
  | cons kp rest ih =>
    obtain ⟨key, p⟩ := kp
    simp only [statements, Traced.outcome_bind, Outcome.bind_eq_ok] at h
    obtain ⟨head, hhead, tail, htail, h⟩ := h
    cases h
    have hrest := ih htail
    simp only [statement, Traced.outcome_bind, Traced.outcome_lift, Outcome.bind_eq_ok] at hhead
    obtain ⟨expanded, hexp, hhead⟩ := hhead
    unfold PrefixTable.expandable at hrest ⊢
    -- a property whose predicate does not expand is missing on both sides
    cases expanded with
    | none =>
      simp only [Traced.outcome_bind, Traced.outcome_report, Outcome.bind_eq_ok] at hhead
      obtain ⟨_, _, hhead⟩ := hhead
      cases hhead
      rw [List.filterMap_cons]
      simpa [hexp] using hrest
    | some predicate =>
      simp only [Traced.outcome_bind, Outcome.bind_eq_ok] at hhead
      obtain ⟨vs, hvs, hhead⟩ := hhead
      cases hhead
      rw [List.filterMap_cons]
      simp only [hexp, Option.toList_some, List.singleton_append]
      exact .cons ⟨rfl, hvs⟩ hrest

end Mapper

/-- A value of a property is a literal, or a resource of which nothing is said and whose identity a text gives. -/
theorem Property.ofText_of_mem_terms {p : Property} {table : PrefixTable} {f : Finder} {vs : List Value}
    {d : Description} (h : (p.terms table f).outcome = .ok vs) (hd : .resource d ∈ vs) :
    ∃ text identity, (Identity.ofText text).outcome = .ok identity ∧ d = .bare identity := by
  simp only [terms, Traced.outcome_bind, Traced.outcome_lift, Outcome.bind_eq_ok] at h
  obtain ⟨resolved, _, h⟩ := h
  obtain ⟨k, hk⟩ := List.getElem?_of_mem hd
  cases hkind : p.kind with
  | literal =>
    rw [hkind] at h
    obtain ⟨v, _, hv⟩ := (Outcome.mapM_eq_ok.mp h).exists_left hk
    obtain ⟨l, _, hl⟩ := Outcome.bind_eq_ok.mp hv
    cases hl
  | iri =>
    rw [hkind] at h
    simp only [Traced.outcome_mapM] at h
    obtain ⟨v, _, hv⟩ := (Outcome.mapM_eq_ok.mp h).exists_left hk
    rw [Traced.outcome_bind] at hv
    obtain ⟨identity, hidentity, hv⟩ := Outcome.bind_eq_ok.mp hv
    cases hv
    exact ⟨some v, identity, hidentity, rfl⟩
  | nodeRef =>
    rw [hkind] at h
    cases h

/-- A value of a property is a literal or a resource of which nothing is said. -/
theorem Property.bare_of_mem_terms {p : Property} {table : PrefixTable} {f : Finder} {vs : List Value}
    {d : Description} (h : (p.terms table f).outcome = .ok vs) (hd : .resource d ∈ vs) :
    ∃ identity, d = .bare identity := by
  obtain ⟨_, identity, _, hbare⟩ := Property.ofText_of_mem_terms h hd
  exact ⟨identity, hbare⟩

namespace Mapper

variable {m : Mapper} {ν : Place → Nat} {scopes : List Finder}

/-! ## Descriptions of occurrences -/

/-- `d` is what the mapper says of an occurrence, with some room left for instances of node templates. -/
def Describes (m : Mapper) (r : Occurrence) (d : Description) : Prop :=
  d.identity = r.identity ∧ (typeIri m.table r.type).outcome = .ok d.type ∧
    ∃ room, (statements m.table (objects m.template m.table r.scope room) r.properties).outcome = .ok d.statements

theorem Describes.node_eq {r : Occurrence} {d : Description} (h : m.Describes r d) :
    d.node ν r.place = r.node ν := by
  rw [Description.node, h.1, Occurrence.node]

/-- The description of an occurrence has one statement for every expandable property. -/
theorem Describes.statements_spec {r : Occurrence} {d : Description} (h : m.Describes r d) :
    ∃ room, List.Forall₂ (fun x s => s.predicate = x.1 ∧
      (objects m.template m.table r.scope room x.2).outcome = .ok s.objects)
      (m.table.expandable r.properties) d.statements := by
  obtain ⟨_, _, room, h⟩ := h
  exact ⟨room, forall₂_statements h⟩

omit [Library] in
/-- The type of a described occurrence is what its reference expands to. -/
theorem type_eq_some_iff {reference : Option Reference} {iri : Option String} {type : String}
    (h : (typeIri m.table reference).outcome = .ok iri) :
    iri = some type ↔ ∃ s, reference = some (.text s) ∧ m.table.expand s = .ok (some type) := by
  cases reference with
  | none =>
    cases h
    simp
  | some r =>
    cases r with
    | other v => cases h
    | text s =>
      simp only [typeIri, Traced.outcome_bind, Traced.outcome_lift, Outcome.bind_eq_ok] at h
      obtain ⟨expanded, hexp, h⟩ := h
      have hiri : iri = expanded := by
        cases expanded <;> cases h <;> rfl
      simp [hexp, hiri]

/-- The objects of a property that refers to a node template are descriptions of its instances: the `k`-th object
    describes the instance for the `k`-th candidate, and there is no other object. -/
theorem objects_of_eq {r : Occurrence} {room : Nat} {p : Property} {vs : List Value} (hkind : p.kind = .nodeRef)
    (h : (objects m.template m.table r.scope room p).outcome = .ok vs) (j k : Nat) :
    (∀ v, vs[k]? = some v → ∃ r' d, v = .resource d ∧ m.Instance r j p k r' ∧ m.Describes r' d) ∧
      (∀ r', m.Instance r j p k r' → ∃ d, vs[k]? = some (.resource d) ∧ m.Describes r' d) := by
  cases hnode : p.node.bind m.template.node? with
  | none =>
    rw [objects_of_unknown hkind hnode] at h
    cases h
    constructor
    · intro v hv
      simp at hv
    · intro r' hinst
      obtain ⟨_, hn, _, _, _⟩ := hinst
      rw [hnode] at hn
      cases hn
  | some n =>
    cases room with
    | zero =>
      rw [objects_of_full hkind hnode] at h
      cases h
    | succ room =>
      rw [objects_of_node hkind hnode] at h
      simp only [Traced.outcome_bind, Traced.outcome_lift, Traced.outcome_mapM, Outcome.bind_eq_ok] at h
      obtain ⟨bases, hbases, h⟩ := h
      have hall := Outcome.mapM_eq_ok.mp h
      -- what is said of one instance
      have hone : ∀ base v, ((n.identify base r.scope).outcome >>= fun identity =>
          (typeIri m.table (n.typeRef.map .text)).outcome >>= fun type =>
            (statements m.table (objects m.template m.table r.scope room) n.properties).outcome >>= fun said =>
              (pure (.resource (.mk identity type said)) : Traced Value).outcome) = .ok v →
          ∃ identity d, (n.identify base r.scope).outcome = .ok identity ∧ v = .resource d ∧
            m.Describes ⟨r.place ++ [j, k], r.scope, identity, n.typeRef.map .text, n.properties⟩ d := by
        intro base v hv
        simp only [Outcome.bind_eq_ok] at hv
        obtain ⟨identity, hid, type, htype, said, hsaid, hv⟩ := hv
        cases hv
        exact ⟨identity, _, hid, rfl, rfl, htype, room, hsaid⟩
      constructor
      · intro v hv
        obtain ⟨base, hbase, hv⟩ := hall.exists_left hv
        obtain ⟨identity, d, hid, rfl, hd⟩ := hone base v hv
        exact ⟨_, d, rfl, .intro hkind hnode hbases hbase hid, hd⟩
      · intro r' hinst
        obtain ⟨_, hn, hbases', hbase, hid'⟩ := hinst
        rw [hnode] at hn
        cases hn
        rw [hbases] at hbases'
        cases hbases'
        obtain ⟨v, hv, hone'⟩ := hall.exists_right hbase
        obtain ⟨identity, d, hid, rfl, hd⟩ := hone _ v hone'
        rw [hid'] at hid
        cases hid
        exact ⟨d, hv, hd⟩

/-- Descriptions of the subjects of scopes, one by one. -/
def DescribesAll (m : Mapper) (scopes : List Finder) (ds : List Description) : Prop :=
  List.Forall₂ (fun f d => (m.describeScope f).outcome = .ok d) scopes ds

/-- The description of a scope describes its subject. -/
theorem describeScope_eq_ok {f : Finder} {d : Description} (h : (m.describeScope f).outcome = .ok d) (i : Nat) :
    (m.template.subject.identity f).outcome = .ok d.identity ∧
      m.Describes ⟨[i], f, d.identity, m.template.typeRef, m.template.properties⟩ d := by
  simp only [describeScope, Traced.outcome_bind, Outcome.bind_eq_ok] at h
  obtain ⟨identity, hid, type, htype, said, hsaid, h⟩ := h
  cases h
  exact ⟨hid, rfl, htype, maxDepth, hsaid⟩

/-! ## Occurrences are the parts of the descriptions -/

/-- Every occurrence is described by the part at its place. -/
theorem part_of_occurs {ds : List Description} (hds : m.DescribesAll scopes ds) {r : Occurrence}
    (h : m.Occurs scopes r) : ∃ d, (r.place, d) ∈ partsOfAll [] ds ∧ m.Describes r d := by
  -- along the derivation of the occurrence, which goes down the description of its subject
  induction h with
  | @subject i f identity hf hid =>
    obtain ⟨d, hd, hdesc⟩ := hds.exists_right hf
    obtain ⟨hid', hd'⟩ := describeScope_eq_ok hdesc i
    rw [hid] at hid'
    cases hid'
    exact ⟨d, mem_partsOfAll.mpr ⟨i, d, hd, d.self_mem_parts _⟩, hd'⟩
  | @within r r' j k predicate p _ hprop hinst ih =>
    obtain ⟨e, he, hdesc⟩ := ih
    obtain ⟨room, hall⟩ := hdesc.statements_spec
    obtain ⟨s, hs, _, hobjects⟩ := hall.exists_right hprop
    have hkind : p.kind = .nodeRef := by cases hinst; assumption
    obtain ⟨d, hd, hdesc'⟩ := (objects_of_eq hkind hobjects j k).2 r' hinst
    have hplace : r'.place = r.place ++ [j, k] := by cases hinst; rfl
    rw [hplace]
    exact ⟨d, mem_partsOfAll_of_object he hs hd, hdesc'⟩

/-- Every part within the description of an occurrence is the description of an occurrence, or a resource of which
    nothing is said. -/
theorem occurs_of_part_within {r : Occurrence} {d : Description} (hr : m.Occurs scopes r) (hd : m.Describes r d)
    {x : Place × Description} (hx : x ∈ d.parts r.place) :
    (∃ r', m.Occurs scopes r' ∧ r'.place = x.1 ∧ m.Describes r' x.2) ∨ ∃ identity, x.2 = .bare identity := by
  induction d using Description.deepInduction generalizing r with
  | step identity type said ih =>
    rcases Description.mem_parts.mp hx with rfl | ⟨j, s, k, d', hs, hv, hx⟩
    · exact .inl ⟨r, hr, rfl, hd⟩
    · obtain ⟨room, hall⟩ := hd.statements_spec
      obtain ⟨⟨predicate, p⟩, hprop, _, hobjects⟩ := hall.exists_left hs
      -- an object is an instance of a node template, whose parts are known by induction, or a value
      by_cases hkind : p.kind = .nodeRef
      · obtain ⟨r', d'', heq, hinst, hdesc⟩ := (objects_of_eq hkind hobjects j k).1 _ hv
        cases heq
        have hplace : r'.place = r.place ++ [j, k] := by cases hinst; rfl
        refine ih s (List.mem_of_getElem? hs) d' (List.mem_of_getElem? hv) (.within hr hprop hinst) hdesc ?_
        rw [hplace]
        exact hx
      · rw [objects_of_ne hkind] at hobjects
        obtain ⟨identity', rfl⟩ := Property.bare_of_mem_terms hobjects (List.mem_of_getElem? hv)
        rcases Description.mem_parts.mp hx with rfl | ⟨j', s', k', d'', hs', _⟩
        · exact .inr ⟨identity', rfl⟩
        · simp [Description.bare, Description.statements] at hs'

theorem occurs_of_part {ds : List Description} (hds : m.DescribesAll scopes ds) {x : Place × Description}
    (hx : x ∈ partsOfAll [] ds) :
    (∃ r, m.Occurs scopes r ∧ r.place = x.1 ∧ m.Describes r x.2) ∨ ∃ identity, x.2 = .bare identity := by
  obtain ⟨i, d, hd, hx⟩ := mem_partsOfAll.mp hx
  obtain ⟨f, hf, hdesc⟩ := hds.exists_left hd
  obtain ⟨hid, hd'⟩ := describeScope_eq_ok hdesc i
  exact occurs_of_part_within (.subject hf hid) hd' hx

/-! ## Derivations are what the parts say -/

/-- What the parts of the descriptions say is what the template derives. -/
theorem said_iff_derives {ds : List Description} (hds : m.DescribesAll scopes ds) (t : Triple) :
    Said ν (partsOfAll [] ds) t ↔ m.Derives scopes ν t := by
  constructor
  · intro h
    obtain ⟨⟨q, d⟩, hx, htold⟩ := h
    -- the part describes an occurrence, whose statements are those of its properties
    rcases occurs_of_part hds hx with ⟨r, hr, rfl, hd⟩ | ⟨identity, rfl⟩
    · dsimp only at htold hd
      unfold Description.Says at htold
      rw [hd.node_eq] at htold
      rcases htold with ⟨type, htype, rfl⟩ | ⟨j, s, k, v, hs, hv, rfl⟩
      · obtain ⟨s, hs, hexp⟩ := (type_eq_some_iff hd.2.1).mp htype
        exact .type hr hs hexp
      · obtain ⟨room, hall⟩ := hd.statements_spec
        obtain ⟨⟨predicate, p⟩, hprop, hpred, hobjects⟩ := hall.exists_left hs
        rw [hpred, Nat.zero_add]
        by_cases hkind : p.kind = .nodeRef
        · obtain ⟨r', d', rfl, hinst, hd'⟩ := (objects_of_eq hkind hobjects j k).1 v hv
          have hplace : r'.place = r.place ++ [j, k] := by cases hinst; rfl
          rw [Value.term, ← hplace, hd'.node_eq]
          exact .reference hr hprop hinst
        · rw [objects_of_ne hkind] at hobjects
          exact .value hr hprop hkind hobjects hv
    · -- nothing is said of a bare resource
      rcases htold with ⟨type, htype, _⟩ | ⟨j, s, k, v, hs, _⟩
      · cases htype
      · simp [Description.bare, Description.statements] at hs
  · intro h
    cases h with
    | @type r reference type hr htyped hexp =>
      obtain ⟨d, hd, hdesc⟩ := part_of_occurs hds hr
      refine ⟨_, hd, .inl ⟨type, (type_eq_some_iff hdesc.2.1).mpr ⟨_, htyped, hexp⟩, ?_⟩⟩
      rw [hdesc.node_eq]
    | @value r j k predicate p values v hr hprop hkind hterms hv =>
      obtain ⟨d, hd, hdesc⟩ := part_of_occurs hds hr
      obtain ⟨room, hall⟩ := hdesc.statements_spec
      obtain ⟨s, hs, hpred, hobjects⟩ := hall.exists_right hprop
      rw [objects_of_ne hkind, hterms] at hobjects
      cases hobjects
      refine ⟨_, hd, .inr ⟨j, s, k, v, hs, hv, ?_⟩⟩
      rw [hdesc.node_eq, hpred, Nat.zero_add]
    | @reference r r' j k predicate p hr hprop hinst =>
      obtain ⟨d, hd, hdesc⟩ := part_of_occurs hds hr
      obtain ⟨room, hall⟩ := hdesc.statements_spec
      obtain ⟨s, hs, hpred, hobjects⟩ := hall.exists_right hprop
      have hkind : p.kind = .nodeRef := by cases hinst; assumption
      have hplace : r'.place = r.place ++ [j, k] := by cases hinst; rfl
      obtain ⟨d', hv, hdesc'⟩ := (objects_of_eq hkind hobjects j k).2 r' hinst
      refine ⟨_, hd, .inr ⟨j, s, k, _, hs, hv, ?_⟩⟩
      rw [hdesc.node_eq, hpred, Nat.zero_add, Value.term, ← hplace, hdesc'.node_eq]

/-! ## Mapping -/

/-- A mapper describes the subjects of the scopes of a document, one by one. -/
theorem describe_eq_ok {document : Json} {ds : List Description} (h : (m.describe document).outcome = .ok ds) :
    ∃ scopes, m.AreScopes document scopes ∧ m.DescribesAll scopes ds := by
  simp only [describe, Traced.outcome_bind, Traced.outcome_lift, Traced.outcome_mapM, Outcome.bind_eq_ok] at h
  obtain ⟨f, hf, scopes, hscopes, h⟩ := h
  refine ⟨scopes, ?_, Outcome.mapM_eq_ok.mp h⟩
  -- a document that is null is refused, any other one is its own first scope
  have hf' : f = ⟨document, document⟩ := by
    unfold Finder.ofDocument at hf
    split at hf
    · cases hf
    · cases hf
      rfl
  subst hf'
  unfold Mapper.scopes at hscopes
  unfold AreScopes
  cases hpath : notBlank? m.template.scopePath with
  | none =>
    rw [hpath] at hscopes
    cases hscopes
    rfl
  | some path =>
    rw [hpath] at hscopes
    simp only [Traced.outcome_bind, Traced.outcome_lift, Outcome.bind_eq_ok] at hscopes
    obtain ⟨found, hfound, hscopes⟩ := hscopes
    -- without matches it is only reported that there are none
    refine ⟨found, hfound, ?_⟩
    split at hscopes <;> cases hscopes <;> rfl

/-- A mapping comes out well if the document is described, and writes what comes out of the descriptions. -/
theorem mapInto_eq_ok {g : Graph} {next : Nat} {document : Json} {r : Mapped} :
    (m.mapInto g next document).outcome = .ok r ↔ ∃ ds, (m.describe document).outcome = .ok ds ∧
      (⟨g.insertAll (emitAll next ds).triples, (emitAll next ds).value, (emitAll next ds).next⟩ : Mapped) = r := by
  rw [mapInto, Traced.outcome_bind, Outcome.bind_eq_ok]
  simp only [Traced.outcome_pure, Except.ok.injEq]

/-- All triples that a mapper can derive from a document are of a kind, and all resources that it describes. -/
structure Adds (m : Mapper) (document : Json) (P : Triple → Prop) (Q : Node → Prop) : Prop where
  triples : ∀ scopes ν t, m.AreScopes document scopes → m.Derives scopes ν t → P t
  nodes : ∀ scopes (ν : Place → Nat) r, m.AreScopes document scopes → m.Occurs scopes r → Q (r.node ν)

/-- What a mapping adds is of the kind that the mapper adds. -/
theorem Adds.mapInto {P : Triple → Prop} {Q : Node → Prop} {g : Graph} {next : Nat} {document : Json} {r : Mapped}
    (h : m.Adds document P Q) (hg : ∀ t ∈ g.triples, P t) (hr : (m.mapInto g next document).outcome = .ok r) :
    (∀ t ∈ r.graph.triples, P t) ∧ ∀ n ∈ r.subjects, Q n := by
  obtain ⟨ds, hds, rfl⟩ := mapInto_eq_ok.mp hr
  obtain ⟨scopes, hscopes, hall⟩ := describe_eq_ok hds
  obtain ⟨e, hreads⟩ := exists_reads_emitAll ds next
  constructor
  · intro t ht
    obtain ⟨added, heq, hadded⟩ := g.exists_added (emitAll next ds).triples
    rw [heq] at ht
    rcases List.mem_append.mp ht with ht | ht
    · exact hg t ht
    · have hsaid := (hreads.mem_triples t).mp (hadded t ht)
      rw [or_false, said_iff_derives hall] at hsaid
      exact h.triples _ _ t hscopes hsaid
  · intro n hn
    rw [hreads.value_eq, nodesOfAll] at hn
    obtain ⟨i, hi, rfl⟩ := List.mem_mapIdx.mp hn
    obtain ⟨f, hf, hdesc⟩ := hall.exists_left (List.getElem?_eq_getElem hi)
    obtain ⟨hidentity, hdescribes⟩ := describeScope_eq_ok hdesc i
    have hnode := h.nodes scopes (fun p => next + e p) _ hscopes (.subject hf hidentity)
    rwa [← hdescribes.node_eq] at hnode

/-- **Soundness and completeness of the mapper.** The subjects are those of the scopes, one for each and in their
    order, and the triples that are added are exactly those that the template derives. Anonymous resources get numbers
    from `next` on, and no two of them get the same. -/
theorem mapInto_derives (m : Mapper) (g : Graph) (next : Nat) (document : Json) (r : Mapped)
    (h : (m.mapInto g next document).outcome = .ok r) :
    ∃ (scopes : List Finder) (ν : Place → Nat), m.AreScopes document scopes ∧
      Function.Injective ν ∧ (∀ p, next ≤ ν p) ∧
      r.subjects.length = scopes.length ∧
      (∀ i f, scopes[i]? = some f → ∃ identity, (m.template.subject.identity f).outcome = .ok identity ∧
        r.subjects[i]? = some (identity.nodeAt ν [i])) ∧
      (∃ added, r.graph.triples = g.triples ++ added ∧ ∀ t ∈ added, m.Derives scopes ν t) ∧
      (∀ t, r.graph.holds t = true ↔ g.holds t = true ∨ ∃ u, m.Derives scopes ν u ∧ t.same u = true) ∧
      (scopes = [] → r.subjects = [] ∧ r.graph = g) := by
  simp only [mapInto, Traced.outcome_bind, Outcome.bind_eq_ok] at h
  obtain ⟨ds, hds, h⟩ := h
  cases h
  obtain ⟨scopes, hscopes, hall⟩ := describe_eq_ok hds
  obtain ⟨e, hreads⟩ := exists_reads_emitAll ds next
  -- places are numbered in the order of the walk, so that what is emitted is what the parts say
  have hmem : ∀ t, t ∈ (emitAll next ds).triples ↔ m.Derives scopes (fun p => next + e p) t := by
    intro t
    rw [hreads.mem_triples, or_false, said_iff_derives hall]
  refine ⟨scopes, fun p => next + e p, hscopes, ?_, fun p => Nat.le_add_right next _, ?_, ?_, ?_, ?_, ?_⟩
  · intro p q hpq
    exact e.injective (Nat.add_left_cancel hpq)
  · show (emitAll next ds).value.length = _
    rw [hreads.value_eq, nodesOfAll, List.length_mapIdx, List.Forall₂.length_eq hall]
  · intro i f hf
    obtain ⟨d, hd, hdesc⟩ := hall.exists_right hf
    refine ⟨d.identity, (describeScope_eq_ok hdesc i).1, ?_⟩
    show (emitAll next ds).value[i]? = _
    rw [hreads.value_eq, nodesOfAll, List.getElem?_mapIdx, hd]
    rfl
  · obtain ⟨added, heq, hadded⟩ := g.exists_added (emitAll next ds).triples
    exact ⟨added, heq, fun t ht => (hmem t).mp (hadded t ht)⟩
  · intro t
    show (g.insertAll _).holds t = true ↔ _
    rw [Graph.holds_insertAll]
    simp only [hmem]
  · intro heq
    subst heq
    cases hall
    exact ⟨rfl, rfl⟩

end Mapper

end

namespace Mapper

/-- The mapper of the template of lists. -/
def ofList : Mapper :=
  ⟨.ofList, .ofTexts [("ex", "http://example.org/")], by decide⟩

theorem areScopes_ofList : ofList.AreScopes .twoTitles [⟨.twoTitles, .text "one"⟩, ⟨.twoTitles, .null⟩] := by
  have hpath : notBlank? ofList.template.scopePath = some "$[*]" := by decide
  have htarget : (Finder.mk .twoTitles .twoTitles).target (Text.trim "$[*]") = (.twoTitles, "$[*]") := by rfl
  unfold AreScopes
  rw [hpath]
  exact ⟨[.text "one", .null], Finder.nodes_of_select htarget JsonPath.parse?_children rfl, rfl⟩

/-- A list of two titles has two subjects, as many as it has members, null being one. -/
theorem mapInto_derives_ofList :
    ∃ r, (ofList.mapInto {} 0 .twoTitles).outcome = .ok r ∧ r.subjects.length = 2 ∧
      ∃ (scopes : List Finder) (ν : Place → Nat), ofList.AreScopes .twoTitles scopes ∧ Function.Injective ν ∧
        ∀ t, r.graph.holds t = true ↔ ∃ u, ofList.Derives scopes ν u ∧ t.same u = true := by
  have hdoc : Json.twoTitles.isNull = false := rfl
  have htype : Reference.Textual ofList.template.typeRef := by
    intro v hv
    cases hv
  obtain ⟨r, hr⟩ := succeeds_mapInto (m := ofList) rfl ResourceTemplate.evaluable_ofList htype hdoc {} 0
  obtain ⟨scopes, ν, hscopes, hinj, _, hlength, _, _, hholds, _⟩ := mapInto_derives ofList {} 0 .twoTitles r hr
  refine ⟨r, hr, ?_, scopes, ν, hscopes, hinj, ?_⟩
  · rw [hlength, hscopes.unique areScopes_ofList]
    rfl
  · intro t
    rw [hholds]
    simp [Graph.holds]

end Mapper

end GraphLift
