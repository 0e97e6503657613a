import GraphLift.Proofs.Description.Attachment
import GraphLift.Proofs.Mapping.Derivation

/-! # Blank nodes are never shared

    The blank nodes that come out of a mapping form a forest. Its roots are anonymous subjects of scopes; every other
    blank node hangs on one triple, below a node that was there earlier.

    * **Emission** (`isForest_emitAll`): what comes out of descriptions is a forest.
    * **Insertion** (`IsForest.added`): it stays one in a graph whose blank nodes have lower numbers.
    * **Occurrences** (`Mapper.Occurs.unique`) are known by their places, so that two subjects, two candidates or two
      values never end up on the same blank node.
    * **Mapping** (`Mapper.mapInto_forest`) adds a forest to a graph.
-/

namespace GraphLift

/-! ## Forests -/

/-- One blank node hangs on the other: a triple has the one as its object and the other as its subject. -/
def HangsOn (triples : List Triple) (a b : Nat) : Prop :=
  ∃ t ∈ triples, t.subject = .blank a ∧ t.object = .node (.blank b)

/-- The blank nodes with numbers from `next` on and below `last`, given in the order in which the nodes were made,
    form a forest in a list of triples. Its roots are among the given subjects. -/
structure IsForest (next last : Nat) (subjects : List Node) (triples : List Triple) : Prop where
  made : ∀ t ∈ triples, ∀ n, t.Mentions n → next ≤ n ∧ n < last
  /-- A blank node is the subject of one scope only. -/
  root_once : ∀ i j n : Nat, subjects[i]? = some (.blank n) → subjects[j]? = some (.blank n) → i = j
  /-- A blank node that is the subject of a scope is the object of no triple. -/
  root_free : ∀ n, Node.blank n ∈ subjects → ∀ t ∈ triples, t.object ≠ .node (.blank n)
  /-- Any other blank node is the object of exactly one triple. -/
  inner_once : ∀ n, next ≤ n → n < last → Node.blank n ∉ subjects → ∃! t, t ∈ triples ∧ t.object = .node (.blank n)
  /-- A blank node was made after the one that it hangs on. -/
  later : ∀ a b, HangsOn triples a b → a < b

/-- Going from blank nodes to those that they hang on never comes back. -/
theorem IsForest.acyclic {next last : Nat} {subjects : List Node} {triples : List Triple}
    (h : IsForest next last subjects triples) (n : Nat) : ¬ Relation.TransGen (HangsOn triples) n n := by
  have hlater : ∀ a b, Relation.TransGen (HangsOn triples) a b → a < b := by
    intro a b hab
    induction hab with
    | single hstep => exact h.later _ _ hstep
    | tail _ hstep ih => exact ih.trans (h.later _ _ hstep)
  intro hcycle
  exact Nat.lt_irrefl n (hlater n n hcycle)

/-! ## Emission -/

/-- A description says triples of its own node only. -/
theorem Description.Says.subject {ν : Place → Nat} {p : Place} {d : Description} {t : Triple} (h : d.Says ν p t) :
    t.subject = d.node ν p := by
  rcases h with ⟨type, _, rfl⟩ | ⟨j, s, k, v, _, _, rfl⟩
  · rfl
  · rfl

/-- The nodes of descriptions stand at places of their own. -/
theorem nodesOfAll_eq_blank {ν : Place → Nat} {ds : List Description} {i n : Nat}
    (h : (nodesOfAll ν [] ds)[i]? = some (.blank n)) : ∃ d, ds[i]? = some d ∧ d.identity = .fresh ∧ ν [i] = n := by
  rw [nodesOfAll, List.getElem?_mapIdx] at h
  obtain ⟨d, hd, hnode⟩ := Option.map_eq_some_iff.mp h
  obtain ⟨hfresh, hn⟩ := Identity.nodeAt_eq_blank.mp hnode
  exact ⟨d, hd, hfresh, hn⟩

/-- What the parts of descriptions say is a forest, when the parts are numbered in their order and no two places have
    the same number. -/
theorem isForest_of_numbers {ν : Place → Nat} {ds : List Description} {next last : Nat} {triples : List Triple}
    (hinj : Function.Injective ν) (hn : Numbers ν next (partsOfAll [] ds))
    (hlast : last = next + (blanks (partsOfAll [] ds)).length)
    (hsaid : ∀ t, t ∈ triples ↔ Said ν (partsOfAll [] ds) t) :
    IsForest next last (nodesOfAll ν [] ds) triples := by
  subst hlast
  have hdistinct := distinct_partsOfAll [] ds
  -- what is attached is a part itself, so that its number is in use
  have hattached : ∀ {t : Triple} {n : Nat}, t ∈ triples → t.object = .node (.blank n) → ∃ q e j k s d,
      Attaches (partsOfAll [] ds) q e j k s d ∧ d.identity = .fresh ∧ ν (q ++ [j, k]) = n ∧
        t = ⟨e.node ν q, s.predicate, .node (.blank n)⟩ :=
    fun ht hobject => exists_attaches_of_said ((hsaid _).mp ht) hobject
  refine ⟨?_, ?_, ?_, ?_, ?_⟩
  · intro t ht n hmention
    rw [← hn.exists_iff]
    rcases hmention with hsubject | hobject
    · obtain ⟨⟨q, e⟩, hq, htold⟩ := (hsaid t).mp ht
      obtain ⟨hfresh, hν⟩ := Identity.nodeAt_eq_blank.mp (htold.subject.symm.trans hsubject)
      exact ⟨q, e, hq, hfresh, hν⟩
    · obtain ⟨q, e, j, k, s, d, hatt, hfresh, hν, _⟩ := hattached ht hobject
      exact ⟨_, d, mem_partsOfAll_of_object hatt.holder hatt.statement hatt.object, hfresh, hν⟩
  · intro i j n hi hj
    obtain ⟨_, _, _, hνi⟩ := nodesOfAll_eq_blank hi
    obtain ⟨_, _, _, hνj⟩ := nodesOfAll_eq_blank hj
    have hplace := hinj (hνi.trans hνj.symm)
    exact (List.cons.inj hplace).1
  · intro n hmem t ht hobject
    obtain ⟨i, hi⟩ := List.getElem?_of_mem hmem
    obtain ⟨_, _, _, hνi⟩ := nodesOfAll_eq_blank hi
    obtain ⟨q, e, j, k, s, d, _, _, hν, _⟩ := hattached ht hobject
    -- places of what is attached have two numbers more than those of descriptions
    have hlength := congrArg List.length (hinj (hν.trans hνi.symm))
    simp at hlength
  · intro n hnext hlast hnot
    obtain ⟨q, d, hq, hfresh, hν⟩ := (hn.exists_iff n).mpr ⟨hnext, hlast⟩
    have hnode : d.node ν q = .blank n := Identity.nodeAt_eq_blank.mpr ⟨hfresh, hν⟩
    rcases exists_attaches hq with ⟨i, hi, rfl⟩ | ⟨q', e, j, k, s, hatt, rfl⟩
    · -- one of the descriptions themselves would be a subject
      refine absurd (List.mem_of_getElem? (i := i) ?_) hnot
      rw [nodesOfAll, List.getElem?_mapIdx, hi]
      exact congrArg some hnode
    · refine ⟨⟨e.node ν q', s.predicate, .node (.blank n)⟩, ⟨?_, rfl⟩, ?_⟩
      · rw [hsaid, ← hnode]
        exact hatt.said
      · intro t ht
        obtain ⟨q'', e', j', k', s', d', hatt', _, hν', heq⟩ := hattached ht.1 ht.2
        obtain ⟨hqq, hee, hss⟩ := hatt'.unique hdistinct hatt (hinj (hν'.trans hν.symm))
        rw [heq, hqq, hee, hss]
  · intro a b hab
    obtain ⟨t, ht, hsubject, hobject⟩ := hab
    obtain ⟨q, e, j, k, s, d, hatt, hfresh, hν, heq⟩ := hattached ht hobject
    have hnode : e.node ν q = .blank a := by rw [← hsubject, heq]
    obtain ⟨hblank, hνq⟩ := Identity.nodeAt_eq_blank.mp hnode
    rw [← hνq, ← hν]
    exact hatt.lt hn hblank hfresh

/-- What comes out of descriptions is a forest. -/
theorem isForest_emitAll (ds : List Description) (next : Nat) :
    IsForest next (emitAll next ds).next (emitAll next ds).value (emitAll next ds).triples := by
  obtain ⟨e, he⟩ := exists_numbers (distinct_partsOfAll [] ds) next
  have hreads := reads_emitAll ds [] next he
  rw [hreads.value_eq]
  exact isForest_of_numbers (injective_numbers e next) he hreads.next_eq fun t => by rw [hreads.mem_triples, or_false]

/-! ## Insertion -/

/-- A forest is one among the triples that are added to a graph, if its numbers were free before. -/
theorem IsForest.added {g : Graph} {next last : Nat} {subjects : List Node} {ts added : List Triple}
    (h : IsForest next last subjects ts) (hfree : g.Below next)
    (hadded : (g.insertAll ts).triples = g.triples ++ added) (hsub : ∀ t ∈ added, t ∈ ts) :
    IsForest next last subjects added := by
  refine ⟨fun t ht => h.made t (hsub t ht), h.root_once, fun n hn t ht => h.root_free n hn t (hsub t ht), ?_, ?_⟩
  · intro n hnext hlast hnot
    obtain ⟨t, ⟨ht, hobject⟩, hunique⟩ := h.inner_once n hnext hlast hnot
    -- the graph cannot have had the triple before
    have hholds : (g.insertAll ts).holds t = true := Graph.holds_insertAll.mpr (.inr ⟨t, ht, t.same_refl⟩)
    have hmem := Graph.mem_of_holds hholds hobject
    rw [hadded, List.mem_append] at hmem
    refine ⟨t, ⟨?_, hobject⟩, fun u hu => hunique u ⟨hsub u hu.1, hu.2⟩⟩
    rcases hmem with hmem | hmem
    · have hlow := hfree t hmem n (.inr hobject)
      omega
    · exact hmem
  · intro a b hab
    obtain ⟨t, ht, hends⟩ := hab
    exact h.later a b ⟨t, hsub t ht, hends⟩

/-- Numbers that were free before and are not used stay free. -/
theorem IsForest.below {g : Graph} {next last : Nat} {subjects : List Node} {ts : List Triple}
    (h : IsForest next last subjects ts) (hle : next ≤ last) (hfree : g.Below next) : (g.insertAll ts).Below last := by
  obtain ⟨added, heq, hsub⟩ := g.exists_added ts
  intro t ht n hn
  rw [heq] at ht
  rcases List.mem_append.mp ht with ht | ht
  · exact (hfree t ht n hn).trans_le hle
  · exact (h.made t (hsub t ht) n hn).2

/-! ## Occurrences -/

namespace Mapper

section

variable [Library] {m : Mapper} {scopes : List Finder} {ν : Place → Nat}

/-- For a candidate there is one instance. -/
theorem Instance.unique {r r' r'' : Occurrence} {j k : Nat} {p : Property} (h : m.Instance r j p k r')
    (h' : m.Instance r j p k r'') : r' = r'' := by
  obtain ⟨_, hn, hbases, hbase, hid⟩ := h
  obtain ⟨_, hn', hbases', hbase', hid'⟩ := h'
  cases hn.symm.trans hn'
  cases hbases.symm.trans hbases'
  cases hbase.symm.trans hbase'
  cases hid.symm.trans hid'
  rfl

theorem Instance.place_eq {r r' : Occurrence} {j k : Nat} {p : Property} (h : m.Instance r j p k r') :
    r'.place = r.place ++ [j, k] := by
  cases h
  rfl

/-- The place of an occurrence says which one it is. -/
theorem Occurs.unique {r r' : Occurrence} (h : m.Occurs scopes r) (h' : m.Occurs scopes r')
    (hplace : r.place = r'.place) : r = r' := by
  induction h generalizing r' with
  | subject hf hid =>
    cases h' with
    | subject hf' hid' =>
      cases hplace
      cases hf.symm.trans hf'
      cases hid.symm.trans hid'
      rfl
    | within _ _ hinst' =>
      have hlength := congrArg List.length (hplace.trans hinst'.place_eq)
      simp at hlength
  | within _ hprop hinst ih =>
    cases h' with
    | subject _ _ =>
      have hlength := congrArg List.length (hinst.place_eq.symm.trans hplace)
      simp at hlength
    | within houter' hprop' hinst' =>
      -- both are instances within the same occurrence, for the same property and the same candidate
      have heq := hinst.place_eq.symm.trans (hplace.trans hinst'.place_eq)
      obtain ⟨houter, hjk⟩ := List.append_inj' heq rfl
      cases hjk
      cases ih houter' houter
      cases hprop.symm.trans hprop'
      exact hinst.unique hinst'

/-- `v` is the `k`-th value of the `j`-th expandable property of an occurrence. -/
structure HasValue (m : Mapper) (scopes : List Finder) (r : Occurrence) (j k : Nat) (v : Value) : Prop where
  occurs : m.Occurs scopes r
  evaluated : ∃ predicate p values, (m.table.expandable r.properties)[j]? = some (predicate, p) ∧
    p.kind ≠ .nodeRef ∧ (p.terms m.table r.scope).outcome = .ok values ∧ values[k]? = some v

/-- Subjects of scopes, instances for candidates and values never end up on the same blank node. -/
structure KeepsApart (m : Mapper) (scopes : List Finder) (ν : Place → Nat) : Prop where
  occurrences : ∀ r r' n, m.Occurs scopes r → m.Occurs scopes r' → r.node ν = .blank n → r'.node ν = .blank n → r = r'
  values : ∀ r r' j j' k k' v v' n, m.HasValue scopes r j k v → m.HasValue scopes r' j' k' v' →
    v.term ν (r.place ++ [j, k]) = .node (.blank n) → v'.term ν (r'.place ++ [j', k']) = .node (.blank n) →
      r = r' ∧ j = j' ∧ k = k'
  mixed : ∀ r r' j k v n, m.Occurs scopes r → m.HasValue scopes r' j k v → r.node ν = .blank n →
    v.term ν (r'.place ++ [j, k]) ≠ .node (.blank n)

omit [Library] in
theorem Value.place_of_term {v : Value} {p : Place} {n : Nat} (h : v.term ν p = .node (.blank n)) : ν p = n := by
  cases v with
  | literal l => cases h
  | resource d => exact (Identity.nodeAt_eq_blank.mp (Term.node.inj h)).2

/-- Blank nodes are kept apart where places have different numbers. -/
theorem keepsApart_of_injective (hinj : Function.Injective ν) : m.KeepsApart scopes ν := by
  refine ⟨?_, ?_, ?_⟩
  · intro r r' n hr hr' hn hn'
    have hplace := hinj ((Identity.nodeAt_eq_blank.mp hn).2.trans (Identity.nodeAt_eq_blank.mp hn').2.symm)
    exact hr.unique hr' hplace
  · intro r r' j j' k k' v v' n hv hv' hn hn'
    have hplace := hinj ((Value.place_of_term hn).trans (Value.place_of_term hn').symm)
    obtain ⟨houter, hjk⟩ := List.append_inj' hplace rfl
    cases hjk
    exact ⟨hv.occurs.unique hv'.occurs houter, rfl, rfl⟩
  · intro r r' j k v n hr hv hn hn'
    have hplace := hinj ((Identity.nodeAt_eq_blank.mp hn).2.trans (Value.place_of_term hn').symm)
    cases hr with
    | subject _ _ =>
      have hlength := congrArg List.length hplace
      simp at hlength
    | within houter hprop hinst =>
      -- at this place of the occurrence is a property that refers to a node template, and none that has values
      rw [hinst.place_eq] at hplace
      obtain ⟨heq, hjk⟩ := List.append_inj' hplace rfl
      cases hjk
      cases houter.unique hv.occurs heq
      obtain ⟨predicate', p', values, hprop', hkind, _⟩ := hv.evaluated
      cases hprop.symm.trans hprop'
      cases hinst
      contradiction

/-! ## Mapping -/

/-- **Blank nodes are never shared.** What a mapping adds to a graph, whose blank nodes have numbers below those that are
    handed out, is a forest: a blank node is the subject of one scope and the object of no triple, or the object of one
    triple only, below a node that was made earlier. The triples are those that the template derives, where neither two
    occurrences nor two values are the same blank node. -/
theorem mapInto_forest (m : Mapper) (g : Graph) (next : Nat) (document : Json) (r : Mapped) (hfree : g.Below next)
    (h : (m.mapInto g next document).outcome = .ok r) :
    ∃ (scopes : List Finder) (ν : Place → Nat) (added : List Triple), m.AreScopes document scopes ∧
      r.graph.triples = g.triples ++ added ∧ (∀ t ∈ added, m.Derives scopes ν t) ∧
      r.subjects.length = scopes.length ∧
      (∀ i f, scopes[i]? = some f → ∃ identity, (m.template.subject.identity f).outcome = .ok identity ∧
        r.subjects[i]? = some (identity.nodeAt ν [i])) ∧
      IsForest next r.next r.subjects added ∧
      (∀ n, ¬ Relation.TransGen (HangsOn added) n n) ∧
      m.KeepsApart scopes ν ∧
      r.graph.Below r.next := by
  simp only [mapInto, Traced.outcome_bind, Outcome.bind_eq_ok] at h
  obtain ⟨ds, hds, h⟩ := h
  cases h
  obtain ⟨scopes, hscopes, hall⟩ := describe_eq_ok hds
  obtain ⟨e, he⟩ := exists_numbers (distinct_partsOfAll [] ds) next
  have hreads := reads_emitAll ds [] next he
  have hforest := isForest_emitAll ds next
  obtain ⟨added, hadded, hsub⟩ := g.exists_added (emitAll next ds).triples
  have hforest' := hforest.added hfree hadded hsub
  refine ⟨scopes, fun q => next + e q, added, hscopes, hadded, ?_, ?_, ?_, hforest', hforest'.acyclic,
    keepsApart_of_injective (injective_numbers e next), ?_⟩
  · intro t ht
    have hsaid := (hreads.mem_triples t).mp (hsub t ht)
    rw [or_false] at hsaid
    exact (said_iff_derives hall t).mp hsaid
  · show (emitAll next ds).value.length = _
    rw [hreads.value_eq, nodesOfAll, List.length_mapIdx, List.Forall₂.length_eq hall]
  · intro i f hf
    obtain ⟨d, hd, hdesc⟩ := hall.exists_right hf
    refine ⟨d.identity, (describeScope_eq_ok hdesc i).1, ?_⟩
    show (emitAll next ds).value[i]? = _
    rw [hreads.value_eq, nodesOfAll, List.getElem?_mapIdx, hd]
    rfl
  · have hle : next ≤ (emitAll next ds).next := by
      rw [hreads.next_eq]
      exact Nat.le_add_right _ _
    exact hforest.below hle hfree

end

/-- Of two titles come two anonymous subjects, which are different nodes of a forest. -/
theorem mapInto_forest_ofList :
    Graph.Below {} 0 ∧ ∃ (r : Mapped) (added : List Triple) (a b : Nat),
      (ofList.mapInto {} 0 .twoTitles).outcome = .ok r ∧ r.graph.triples = added ∧
      r.subjects = [.blank a, .blank b] ∧ a ≠ b ∧ IsForest 0 r.next r.subjects added := by
  have hfree : Graph.Below {} 0 := fun t ht => absurd ht List.not_mem_nil
  have hdoc : Json.twoTitles.isNull = false := rfl
  have htype : Reference.Textual ofList.template.typeRef := by
    intro v hv
    cases hv
  obtain ⟨r, hr⟩ := succeeds_mapInto (m := ofList) rfl ResourceTemplate.evaluable_ofList htype hdoc {} 0
  obtain ⟨scopes, ν, added, hscopes, hadded, _, hlength, hsubjects, hforest, _⟩ :=
    mapInto_forest ofList {} 0 .twoTitles r hfree hr
  cases hscopes.unique areScopes_ofList
  -- no title names its subject
  obtain ⟨first, hfirst, hnode⟩ := hsubjects 0 _ rfl
  obtain ⟨second, hsecond, hnode'⟩ := hsubjects 1 _ rfl
  cases hfirst
  cases hsecond
  refine ⟨hfree, r, added, ν [0], ν [1], hr, hadded, ?_, ?_, hforest⟩
  · apply List.ext_getElem?
    intro i
    match i with
    | 0 => exact hnode
    | 1 => exact hnode'
    | i + 2 =>
      rw [List.getElem?_eq_none (by rw [hlength]; simp)]
      rfl
  · intro heq
    have hplaces := hforest.root_once 0 1 _ hnode (hnode'.trans (congrArg (fun n => some (Node.blank n)) heq.symm))
    cases hplaces

end Mapper

end GraphLift
