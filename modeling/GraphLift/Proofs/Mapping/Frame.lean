import GraphLift.Proofs.Mapping.Forest
import GraphLift.Proofs.Mapping.Steps
import GraphLift.Proofs.Mapping.Writing

/-! # What a graph held before

    A run takes no notice of what its graph held before. It keeps all of it, and puts behind it what it would have
    written into an empty graph, except for triples that are there already.

    * **Graphs** (`Graph.plus`): one graph, and behind it what another one holds besides. Insertion commutes with that.
    * **Stores** (`Store.onto`) are put onto a graph in the same way, and so are all steps of a run
      (`Writing.Stepwise.onto`), the failing ones included.
    * **Mapping** (`Mapper.mapInto_frame`): a run on a graph and a run on the empty graph end alike.
-/

namespace GraphLift

/-- Triples that say the same have the same blank nodes. -/
theorem Triple.mentions_of_same {t u : Triple} (h : t.same u = true) {n : Nat} (ht : t.Mentions n) : u.Mentions n := by
  rcases ht with hsubject | hobject
  · have hfolded := congrArg Triple.subject (Triple.same_iff.mp h)
    exact .inl (hfolded.symm.trans hsubject)
  · rw [Triple.eq_of_same h hobject]
    exact .inr hobject

/-! ## One graph behind another -/

namespace Graph

/-- The triples of `g`, and behind them those of `h` that `g` does not hold. -/
def plus (g h : Graph) : Graph :=
  ⟨g.triples ++ h.triples.filter fun t => !g.holds t⟩

theorem plus_empty (g : Graph) : g.plus {} = g := by
  show Graph.mk (g.triples ++ []) = g
  rw [List.append_nil]

/-- Both graphs are held by the two together, and nothing else. -/
theorem holds_plus {g h : Graph} {t : Triple} : (g.plus h).holds t = true ↔ g.holds t = true ∨ h.holds t = true := by
  simp only [holds_iff, plus, List.mem_append, List.mem_filter]
  constructor
  · intro hplus
    obtain ⟨u, hu | ⟨hu, _⟩, hsame⟩ := hplus
    · exact .inl ⟨u, hu, hsame⟩
    · exact .inr ⟨u, hu, hsame⟩
  · intro hor
    rcases hor with ⟨u, hu, hsame⟩ | ⟨u, hu, hsame⟩
    · exact ⟨u, .inl hu, hsame⟩
    · -- what the first graph holds already says the same
      by_cases hg : g.holds u = true
      · obtain ⟨v, hv, huv⟩ := holds_iff.mp hg
        exact ⟨v, .inl hv, Triple.same_trans hsame huv⟩
      · exact ⟨u, .inr ⟨hu, by simpa using hg⟩, hsame⟩

/-- A triple may be inserted behind the first graph. -/
theorem insert_plus (g h : Graph) (t : Triple) : (g.plus h).insert t = g.plus (h.insert t) := by
  have hholds := holds_plus (g := g) (h := h) (t := t)
  by_cases hh : h.holds t = true
  · have hboth : (g.plus h).holds t = true := hholds.mpr (.inr hh)
    rw [insert, insert, if_pos hh, if_pos hboth]
  · by_cases hg : g.holds t = true
    · have hboth : (g.plus h).holds t = true := hholds.mpr (.inl hg)
      rw [insert, insert, if_neg hh, if_pos hboth]
      simp [plus, List.filter_append, hg]
    · have hnone : ¬ (g.plus h).holds t = true := fun hboth => (hholds.mp hboth).elim hg hh
      rw [insert, insert, if_neg hh, if_neg hnone]
      simp [plus, List.filter_append, hg]

/-- A triple with a blank node whose number is free in a graph is not held by it. -/
theorem Below.not_holds {g : Graph} {next n : Nat} {t : Triple} (h : g.Below next) (ht : t.Mentions n) (hn : next ≤ n) :
    ¬ g.holds t = true := by
  intro hholds
  obtain ⟨u, hu, hsame⟩ := holds_iff.mp hholds
  have hlow := h u hu n (Triple.mentions_of_same hsame ht)
  omega

end Graph

/-! ## Runs -/

/-- The store with its graph put behind another one. -/
def Store.onto (g : Graph) (s : Store) : Store :=
  { s with graph := g.plus s.graph }

/-- A run on a graph is the run on the empty graph, put behind that graph, whether it comes out well or fails. -/
theorem Writing.Stepwise.onto {α : Type} {w : Writing α} (h : Stepwise w) (g : Graph) (s : Store) :
    w (s.onto g) = match w s with
      | .ok a s' => .ok a (s'.onto g)
      | .error e s' => .error e (s'.onto g) := by
  induction h generalizing s with
  | pure a => rfl
  | throw e => rfl
  | consult x =>
    unfold Writing.consult
    cases x.outcome with
    | ok a => rfl
    | error e => rfl
  | make i => rfl
  | add t =>
    show EStateM.Result.ok () (Store.mk ((g.plus s.graph).insert t) _ _ _) = _
    rw [Graph.insert_plus]
    rfl
  | enter h => rfl
  | @bind _ _ w k _ _ first rest =>
    show EStateM.bind w k (s.onto g) = match EStateM.bind w k s with
      | .ok a s' => .ok a (s'.onto g)
      | .error e s' => .error e (s'.onto g)
    unfold EStateM.bind
    rw [first s]
    cases w s with
    | ok a s' => exact rest a s'
    | error e s' => rfl

/-- The store `s` holds the graph `g`, behind it what the store `s₀` holds besides, and nothing else. Apart from that,
    both stores are the same. -/
structure Store.Appends (g : Graph) (s₀ s : Store) : Prop where
  triples : s.graph.triples = g.triples ++ s₀.graph.triples.filter fun t => !g.holds t
  holds : ∀ t, s.graph.holds t = true ↔ g.holds t = true ∨ s₀.graph.holds t = true
  next : s.next = s₀.next
  records : s.records = s₀.records
  depths : s.depths = s₀.depths

theorem Store.appends_onto (s : Store) (g : Graph) : Store.Appends g s (s.onto g) :=
  ⟨rfl, fun _ => Graph.holds_plus, rfl, rfl, rfl⟩

/-! ## Mapping -/

namespace Mapper

variable [Library]

/-- The blank nodes of a mapping into the empty graph have numbers that were handed out. -/
theorem mentions_of_mapInto {m : Mapper} {next : Nat} {document : Json} {r : Mapped}
    (h : (m.mapInto {} next document).outcome = .ok r) : ∀ t ∈ r.graph.triples, ∀ n, t.Mentions n → next ≤ n := by
  obtain ⟨ds, _, rfl⟩ := mapInto_eq_ok.mp h
  obtain ⟨added, heq, hsub⟩ := ({} : Graph).exists_added (emitAll next ds).triples
  intro t ht n hn
  have hadded : t ∈ added := by
    have ht' : t ∈ [] ++ added := heq ▸ ht
    exact ht'
  exact ((isForest_emitAll ds next).made t (hsub t hadded) n hn).1

/-- **A mapping only appends, and does not look at what is there.** Into a graph whose blank nodes are not used again, a
    run writes what it writes into the empty graph, as far as the graph does not hold that already. If it succeeds, the
    subjects are the same, and no triple with a blank node of the run was there before. If it fails, it fails in the
    same way, and what it has written so far stands behind what the graph held. -/
theorem mapInto_frame (m : Mapper) (g : Graph) (next : Nat) (document : Json) (hfree : g.Below next) :
    ∃ s₀ s : Store, Store.Appends g s₀ s ∧
      ((∃ subjects,
          (m.write document) (.start {} next) = .ok subjects s₀ ∧ (m.write document) (.start g next) = .ok subjects s ∧
          (m.mapInto {} next document).outcome = .ok ⟨s₀.graph, subjects, s₀.next⟩ ∧
          (m.mapInto g next document).outcome = .ok ⟨s.graph, subjects, s.next⟩ ∧
          ∀ t ∈ s₀.graph.triples, ∀ n, t.Mentions n → ¬ g.holds t = true) ∨
        ∃ e,
          (m.write document) (.start {} next) = .error e s₀ ∧ (m.write document) (.start g next) = .error e s ∧
          (m.mapInto {} next document).outcome = .error e ∧ (m.mapInto g next document).outcome = .error e) := by
  have hstart : Store.start g next = (Store.start {} next).onto g := by
    show Store.mk g next [] [] = Store.mk (g.plus {}) next [] []
    rw [Graph.plus_empty]
  have honto := (m.stepwise_write document).onto g (.start {} next)
  rw [← hstart] at honto
  have hempty := m.outcome_mapInto {} next document
  have hgraph := m.outcome_mapInto g next document
  cases hrun : (m.write document) (.start {} next) with
  | ok subjects s₀ =>
    rw [hrun] at honto hempty
    rw [honto] at hgraph
    refine ⟨s₀, s₀.onto g, s₀.appends_onto g, .inl ⟨subjects, rfl, honto, hempty, hgraph, ?_⟩⟩
    intro t ht n hn
    exact hfree.not_holds hn (mentions_of_mapInto hempty t ht n hn)
  | error e s₀ =>
    rw [hrun] at honto hempty
    rw [honto] at hgraph
    exact ⟨s₀, s₀.onto g, s₀.appends_onto g, .inr ⟨e, rfl, honto, hempty, hgraph⟩⟩

end Mapper

/-- A graph with the title of an anonymous resource. -/
def Graph.ofTitle : Graph := ⟨[⟨.blank 0, "http://example.org/title", .literal (.plain "zero")⟩]⟩

namespace Mapper

/-- Two titles come to one that is there already: its blank node keeps its number, and the others count on from it. -/
theorem mapInto_frame_ofList :
    Graph.Below .ofTitle 1 ∧ ∃ (s₀ s : Store) (subjects : List Node), Store.Appends .ofTitle s₀ s ∧
      (ofList.mapInto {} 1 .twoTitles).outcome = .ok ⟨s₀.graph, subjects, s₀.next⟩ ∧
      (ofList.mapInto .ofTitle 1 .twoTitles).outcome = .ok ⟨s.graph, subjects, s.next⟩ ∧
      ∀ t ∈ s₀.graph.triples, ∀ n, t.Mentions n → ¬ Graph.ofTitle.holds t = true := by
  have hfree : Graph.Below .ofTitle 1 := by
    intro t ht n hn
    obtain rfl := List.mem_singleton.mp ht
    rcases hn with hn | hn
    · cases hn
      exact Nat.one_pos
    · cases hn
  have htype : Reference.Textual ofList.template.typeRef := by
    intro v hv
    cases hv
  have hdoc : Json.twoTitles.isNull = false := rfl
  obtain ⟨r, hr⟩ := succeeds_mapInto (m := ofList) rfl ResourceTemplate.evaluable_ofList htype hdoc .ofTitle 1
  obtain ⟨s₀, s, happends, h | h⟩ := mapInto_frame ofList .ofTitle 1 .twoTitles hfree
  · obtain ⟨subjects, _, _, hempty, hgraph, hnew⟩ := h
    exact ⟨hfree, s₀, s, subjects, happends, hempty, hgraph, hnew⟩
  · -- the template keeps to what is required of it, so that it does not fail
    obtain ⟨e, _, _, _, hfails⟩ := h
    cases hfails.symm.trans hr

end Mapper

end GraphLift
