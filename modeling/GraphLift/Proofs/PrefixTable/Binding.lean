import GraphLift.Proofs.PrefixTable

/-! # Binding a prefix table to a graph

    A graph knows each prefix and each namespace once. A pair that is bound displaces up to two pairs, one for its prefix
    and one for its namespace, so that the pairs of a table may displace pairs of the graph and each other.

    * **One step** (`Namespaces.mem_bind`) adds its pair and keeps the pairs that share nothing with it, and the pairs stay
      one to one (`OneToOne.bind`).
    * **A run** (`Namespaces.mem_bindAll`) adds the pairs that no later one displaces, and keeps the pairs of the graph that
      none displaces.
    * **Tables** (`PrefixTable.bindTo_oneToOne`) have each prefix once, so that within a table only a namespace that is
      written again displaces an entry.
-/

namespace GraphLift

namespace Namespaces

/-! ## One pair -/

/-- Each prefix and each namespace is found in one pair only. -/
structure OneToOne (ns : Namespaces) : Prop where
  names : (ns.pairs.map (·.1)).Nodup
  iris : (ns.pairs.map (·.2)).Nodup

theorem oneToOne_standard : standard.OneToOne := ⟨by decide, by decide⟩

/-- The two pairs have neither the prefix nor the namespace in common. -/
def Apart (p q : String × String) : Prop :=
  p.1 ≠ q.1 ∧ p.2 ≠ q.2

variable {ns : Namespaces} {pairs : List (String × String)}

/-- Two pairs of a graph are the same or apart. -/
theorem OneToOne.eq_or_apart (h : ns.OneToOne) {p q : String × String} (hp : p ∈ ns.pairs) (hq : q ∈ ns.pairs) :
    p = q ∨ Apart p q := by
  by_cases hname : p.1 = q.1
  · exact .inl (List.inj_on_of_nodup_map h.names hp hq hname)
  · by_cases hiri : p.2 = q.2
    · exact .inl (List.inj_on_of_nodup_map h.iris hp hq hiri)
    · exact .inr ⟨hname, hiri⟩

theorem bind_of_mem {p : String × String} (h : p ∈ ns.pairs) : ns.bind p.1 p.2 = ns :=
  if_pos (List.contains_iff_mem.mpr h)

theorem bind_of_not_mem {p : String × String} (h : p ∉ ns.pairs) :
    ns.bind p.1 p.2 = ⟨ns.pairs.filter (fun q => q.1 != p.1 && q.2 != p.2) ++ [p]⟩ :=
  if_neg fun hmem => h (List.contains_iff_mem.mp hmem)

/-- A pair that is bound stays one of the pairs, and so does every pair that is apart from it. -/
theorem mem_bind (h : ns.OneToOne) {p q : String × String} :
    q ∈ (ns.bind p.1 p.2).pairs ↔ q = p ∨ q ∈ ns.pairs ∧ Apart q p := by
  by_cases hmem : p ∈ ns.pairs
  · rw [bind_of_mem hmem]
    constructor
    · intro hq
      rcases h.eq_or_apart hq hmem with heq | hapart
      · exact .inl heq
      · exact .inr ⟨hq, hapart⟩
    · rintro (rfl | ⟨hq, _⟩)
      · exact hmem
      · exact hq
  · rw [bind_of_not_mem hmem]
    simp only [List.mem_append, List.mem_filter, List.mem_singleton, Bool.and_eq_true, bne_iff_ne, Apart]
    exact or_comm

/-- Binding a pair keeps the pairs one to one. -/
theorem OneToOne.bind (h : ns.OneToOne) (p : String × String) : (ns.bind p.1 p.2).OneToOne := by
  by_cases hmem : p ∈ ns.pairs
  · rw [bind_of_mem hmem]
    exact h
  · rw [bind_of_not_mem hmem]
    -- what is kept is apart from the pair that comes at the end
    have hkept : ∀ q ∈ ns.pairs.filter (fun q => q.1 != p.1 && q.2 != p.2), Apart q p := by
      intro q hq
      have htest := (List.mem_filter.mp hq).2
      simp only [Bool.and_eq_true, bne_iff_ne] at htest
      exact htest
    constructor
    · show (List.map _ (_ ++ [p])).Nodup
      rw [List.map_append]
      refine List.Nodup.append (h.names.sublist (List.filter_sublist.map _)) (List.nodup_singleton _) ?_
      intro name hname hp
      obtain ⟨q, hq, rfl⟩ := List.mem_map.mp hname
      exact (hkept q hq).1 (List.mem_singleton.mp hp)
    · show (List.map _ (_ ++ [p])).Nodup
      rw [List.map_append]
      refine List.Nodup.append (h.iris.sublist (List.filter_sublist.map _)) (List.nodup_singleton _) ?_
      intro iri hiri hp
      obtain ⟨q, hq, rfl⟩ := List.mem_map.mp hiri
      exact (hkept q hq).2 (List.mem_singleton.mp hp)

/-! ## Pairs in order -/

theorem OneToOne.bindAll (h : ns.OneToOne) (pairs : List (String × String)) : (ns.bindAll pairs).OneToOne := by
  induction pairs generalizing ns with
  | nil => exact h
  | cons p rest ih => exact ih (h.bind p)

/-- The pair is one of those that are bound in order, and no later one displaces it. -/
def Lasts (pairs : List (String × String)) (p : String × String) : Prop :=
  ∃ before after, pairs = before ++ p :: after ∧ ∀ q ∈ after, Apart p q

theorem lasts_cons {p q : String × String} :
    Lasts (q :: pairs) p ↔ Lasts pairs p ∨ p = q ∧ ∀ r ∈ pairs, Apart p r := by
  constructor
  · rintro ⟨before, after, heq, hafter⟩
    cases before with
    | nil =>
      obtain ⟨rfl, rfl⟩ := List.cons_eq_cons.mp heq
      exact .inr ⟨rfl, hafter⟩
    | cons first before =>
      obtain ⟨rfl, rfl⟩ := List.cons_eq_cons.mp heq
      exact .inl ⟨before, after, rfl, hafter⟩
  · rintro (⟨before, after, rfl, hafter⟩ | ⟨rfl, hall⟩)
    · exact ⟨q :: before, after, rfl, hafter⟩
    · exact ⟨[], pairs, rfl, hall⟩

/-- What is bound after a run: the pairs of the run that last, and the pairs from before that are apart from all of
    them. -/
theorem mem_bindAll (h : ns.OneToOne) {p : String × String} :
    p ∈ (ns.bindAll pairs).pairs ↔ Lasts pairs p ∨ p ∈ ns.pairs ∧ ∀ q ∈ pairs, Apart p q := by
  induction pairs generalizing ns with
  | nil =>
    constructor
    · intro hp
      exact .inr ⟨hp, fun q hq => absurd hq List.not_mem_nil⟩
    · rintro (⟨before, after, heq, _⟩ | ⟨hp, _⟩)
      · exact absurd heq.symm (List.append_ne_nil_of_right_ne_nil _ (List.cons_ne_nil _ _))
      · exact hp
  | cons q rest ih =>
    have hstep := ih (h.bind q)
    rw [mem_bind h] at hstep
    show p ∈ ((ns.bind q.1 q.2).bindAll rest).pairs ↔ _
    rw [hstep, lasts_cons, List.forall_mem_cons]
    constructor
    · rintro (hlasts | ⟨hpq | ⟨hp, hapart⟩, hrest⟩)
      · exact .inl (.inl hlasts)
      · exact .inl (.inr ⟨hpq, hrest⟩)
      · exact .inr ⟨hp, hapart, hrest⟩
    · rintro ((hlasts | ⟨hpq, hrest⟩) | ⟨hp, hapart, hrest⟩)
      · exact .inl hlasts
      · exact .inr ⟨.inl hpq, hrest⟩
      · exact .inr ⟨.inr ⟨hp, hapart⟩, hrest⟩

theorem bindAll_of_subset (h : pairs ⊆ ns.pairs) : ns.bindAll pairs = ns := by
  induction pairs with
  | nil => rfl
  | cons p rest ih =>
    obtain ⟨hp, hrest⟩ := List.cons_subset.mp h
    show (ns.bind p.1 p.2).bindAll rest = ns
    rw [bind_of_mem hp, ih hrest]

/-- If each prefix is written once, a pair lasts unless its namespace is written again. -/
theorem lasts_of_append {before after : List (String × String)} {p : String × String}
    (honce : ((before ++ p :: after).map (·.1)).Nodup) :
    Lasts (before ++ p :: after) p ↔ ∀ q ∈ after, q.2 ≠ p.2 := by
  -- the other pairs have other prefixes, so that the pair stands at one place only
  rw [List.map_append, List.map_cons] at honce
  have hbefore : p ∉ before := fun hmem =>
    List.disjoint_of_nodup_append honce (List.mem_map_of_mem hmem) List.mem_cons_self
  obtain ⟨hnot, _⟩ := List.nodup_cons.mp (List.nodup_append.mp honce).2.1
  have hafter : p ∉ after := fun hmem => hnot (List.mem_map_of_mem hmem)
  constructor
  · rintro ⟨before', after', heq, hapart⟩ q hq
    have hsame : after = after' := by
      have htail := (List.append_cons_inj_of_notMem hbefore hafter).mp heq
      exact htail.2.2
    rw [hsame] at hq
    exact (hapart q hq).2.symm
  · intro hiris
    refine ⟨before, after, rfl, fun q hq => ⟨?_, (hiris q hq).symm⟩⟩
    intro hname
    apply hnot
    rw [hname]
    exact List.mem_map_of_mem hq

end Namespaces

namespace PrefixTable

/-! ## Tables -/

/-- The table has the entry, and no later entry has its namespace. -/
def Binds (table : PrefixTable) (p : String × String) : Prop :=
  ∃ before after, table.pairs = before ++ p :: after ∧ ∀ q ∈ after, q.2 ≠ p.2

variable {table : PrefixTable}

theorem Binds.mem {p : String × String} (h : table.Binds p) : p ∈ table.pairs := by
  obtain ⟨before, after, heq, _⟩ := h
  rw [heq]
  exact List.mem_append_right before List.mem_cons_self

/-- In a table that has each prefix once, the entries that last are those whose namespace is not written again. -/
theorem lasts_iff_binds (honce : (table.pairs.map (·.1)).Nodup) {p : String × String} :
    Namespaces.Lasts table.pairs p ↔ table.Binds p := by
  constructor
  · rintro ⟨before, after, heq, hafter⟩
    exact ⟨before, after, heq, fun q hq => (hafter q hq).2.symm⟩
  · rintro ⟨before, after, heq, hafter⟩
    rw [heq] at honce ⊢
    exact (Namespaces.lasts_of_append honce).mpr hafter

/-- The pairs after a table was bound: its own entries, as far as their namespaces are not written again, and the pairs
    from before with which it has nothing in common. -/
theorem mem_bound_iff {ns : Namespaces} (hns : ns.OneToOne) (honce : (table.pairs.map (·.1)).Nodup)
    {p : String × String} :
    p ∈ (ns.bindAll table.pairs).pairs ↔
      table.Binds p ∨ p ∈ ns.pairs ∧ p.1 ∉ table.pairs.map (·.1) ∧ p.2 ∉ table.pairs.map (·.2) := by
  have hapart : (∀ q ∈ table.pairs, Namespaces.Apart p q) ↔
      p.1 ∉ table.pairs.map (·.1) ∧ p.2 ∉ table.pairs.map (·.2) := by
    simp only [List.mem_map, not_exists, not_and, Namespaces.Apart, ← forall_and, ne_comm (a := p.1), ne_comm (a := p.2)]
  rw [Namespaces.mem_bindAll hns, lasts_iff_binds honce, hapart]

/-- All entries last if no namespace is written twice. -/
theorem binds_of_nodup (h : (table.pairs.map (·.2)).Nodup) {p : String × String} (hp : p ∈ table.pairs) :
    table.Binds p := by
  obtain ⟨before, after, heq⟩ := List.append_of_mem hp
  refine ⟨before, after, heq, fun q hq hiri => ?_⟩
  rw [heq, List.map_append, List.map_cons] at h
  obtain ⟨hnot, _⟩ := List.nodup_cons.mp (List.nodup_append.mp h).2.1
  apply hnot
  rw [← hiri]
  exact List.mem_map_of_mem hq

/-- A table that has each prefix once is bound to a graph whose pairs are one to one, which they stay. An entry is bound
    unless a later one has its namespace; a pair of the graph is kept if the table binds it or has neither its prefix nor
    its namespace; no other pairs are bound. Binding the table again changes nothing if it has each namespace once. -/
theorem bindTo_oneToOne {ns : Namespaces} (hnames : ∀ e ∈ table.entries, e.1.IsBindable)
    (honce : (table.pairs.map (·.1)).Nodup) (hns : ns.OneToOne) :
    ∃ bound, table.bindTo ns = .ok bound ∧ bound.OneToOne ∧
      (∀ before p after, table.pairs = before ++ p :: after → (p ∈ bound.pairs ↔ ∀ q ∈ after, q.2 ≠ p.2)) ∧
      (∀ p ∈ ns.pairs, p ∈ bound.pairs ↔
        table.Binds p ∨ p.1 ∉ table.pairs.map (·.1) ∧ p.2 ∉ table.pairs.map (·.2)) ∧
      (∀ p ∈ bound.pairs, p ∈ ns.pairs ∨ p ∈ table.pairs) ∧
      ((table.pairs.map (·.2)).Nodup → table.bindTo bound = .ok bound) := by
  refine ⟨ns.bindAll table.pairs, bindTo_eq hnames ns, hns.bindAll _, ?_, ?_, ?_, ?_⟩
  · intro before p after heq
    have hp : p ∈ table.pairs := by
      rw [heq]
      exact List.mem_append_right before List.mem_cons_self
    rw [Namespaces.mem_bindAll hns, heq, Namespaces.lasts_of_append (heq ▸ honce)]
    constructor
    · rintro (hlater | ⟨_, hapart⟩)
      · exact hlater
      · -- an entry shares its prefix with itself, so that it is not among the pairs that are kept
        exact absurd rfl (hapart p (heq ▸ hp)).1
    · exact .inl
  · intro p hp
    rw [mem_bound_iff hns honce]
    constructor
    · rintro (hbinds | ⟨_, hapart⟩)
      · exact .inl hbinds
      · exact .inr hapart
    · rintro (hbinds | hapart)
      · exact .inl hbinds
      · exact .inr ⟨hp, hapart⟩
  · intro p hp
    rcases (mem_bound_iff hns honce).mp hp with hbinds | ⟨hkept, _⟩
    · exact .inr hbinds.mem
    · exact .inl hkept
  · intro hiris
    rw [bindTo_eq hnames, Namespaces.bindAll_of_subset]
    intro p hp
    exact (mem_bound_iff hns honce).mpr (.inl (binds_of_nodup hiris hp))

/-- A table that gives the prefix `dcat` to the namespace of `dcterms` displaces both pairs that every graph has for
    these, and can be bound again; an entry is displaced where its namespace is written again. -/
theorem bindTo_oneToOne_ofOverlaps :
    (∃ bound, (ofTexts [("dcat", "http://purl.org/dc/terms/"), ("ex", "http://example.org/")]).bindTo .standard =
        .ok bound ∧ bound.OneToOne ∧ ("dcat", "http://purl.org/dc/terms/") ∈ bound.pairs ∧
        ("dcat", "http://www.w3.org/ns/dcat#") ∉ bound.pairs ∧ ("dcterms", "http://purl.org/dc/terms/") ∉ bound.pairs ∧
        ("foaf", "http://xmlns.com/foaf/0.1/") ∈ bound.pairs ∧
        (ofTexts [("dcat", "http://purl.org/dc/terms/"), ("ex", "http://example.org/")]).bindTo bound = .ok bound) ∧
      ∃ bound, (ofTexts [("ex", "http://example.org/"), ("new", "http://example.org/")]).bindTo .standard =
        .ok bound ∧ ("ex", "http://example.org/") ∉ bound.pairs ∧ ("new", "http://example.org/") ∈ bound.pairs := by
  constructor
  · obtain ⟨bound, hbound, hone, hentries, hkept, _, hagain⟩ :=
      @bindTo_oneToOne (ofTexts [("dcat", "http://purl.org/dc/terms/"), ("ex", "http://example.org/")]) .standard
        (by simp [ofTexts, PrefixName.IsBindable]) (by decide) Namespaces.oneToOne_standard
    refine ⟨bound, hbound, hone, ?_, ?_, ?_, ?_, hagain (by decide)⟩
    · exact (hentries [] _ [("ex", "http://example.org/")] rfl).mpr (by decide)
    · intro h
      rcases (hkept _ (by decide)).mp h with hbinds | ⟨hname, _⟩
      · exact absurd hbinds.mem (by decide)
      · exact absurd hname (by decide)
    · intro h
      rcases (hkept _ (by decide)).mp h with hbinds | ⟨_, hiri⟩
      · exact absurd hbinds.mem (by decide)
      · exact absurd hiri (by decide)
    · exact (hkept _ (by decide)).mpr (.inr (by decide))
  · obtain ⟨bound, hbound, _, hentries, _⟩ :=
      @bindTo_oneToOne (ofTexts [("ex", "http://example.org/"), ("new", "http://example.org/")]) .standard
        (by simp [ofTexts, PrefixName.IsBindable]) (by decide) Namespaces.oneToOne_standard
    refine ⟨bound, hbound, ?_, ?_⟩
    · intro h
      exact (hentries [] _ [("new", "http://example.org/")] rfl).mp h _ List.mem_cons_self rfl
    · exact (hentries [("ex", "http://example.org/")] _ [] rfl).mpr (by decide)

end PrefixTable

end GraphLift
