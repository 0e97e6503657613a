import GraphLift.Rdf.Term
import Mathlib.Data.List.Basic

/-! # Graphs as sets of triples

    A graph holds a triple if one of its triples says the same.

    * **`Graph.holds_insertAll`**: after an insertion a graph holds what it held and what was inserted.
    * **`Graph.exists_added`**: an insertion leaves the triples of the graph in front and adds inserted ones only.
    * **`Graph.Uses`**: the terms of a graph are those of its triples.
    * **`Graph.Distinct`**: insertion says no triple twice, so that a copy of a graph, triple by triple, is the same graph.
    * **`Graph.Below`**: the blank nodes of a graph have numbers below a bound, so that those from there on are free.
-/

namespace GraphLift

namespace Triple

theorem same_iff {t u : Triple} : t.same u = true ↔ t.folded = u.folded := by
  rw [same, beq_iff_eq]

theorem same_refl (t : Triple) : t.same t = true :=
  same_iff.mpr rfl

theorem same_symm {t u : Triple} (h : t.same u = true) : u.same t = true :=
  same_iff.mpr (same_iff.mp h).symm

theorem same_trans {t u v : Triple} (h : t.same u = true) (h' : u.same v = true) : t.same v = true :=
  same_iff.mpr ((same_iff.mp h).trans (same_iff.mp h'))

/-- Only literals are the same without being equal. -/
theorem eq_of_same {t u : Triple} (h : t.same u = true) {n : Node} (hobject : t.object = .node n) : u = t := by
  obtain ⟨s, p, o⟩ := t
  obtain ⟨s', p', o'⟩ := u
  have hfolded := same_iff.mp h
  simp only [folded, Triple.mk.injEq] at hfolded
  obtain ⟨rfl, rfl, hfolded⟩ := hfolded
  cases hobject
  cases o' with
  | node n' => exact congrArg _ hfolded.symm
  | literal l => cases hfolded

/-- The blank node with the number `n` is the subject or the object of the triple. -/
def Mentions (t : Triple) (n : Nat) : Prop :=
  t.subject = .blank n ∨ t.object = .node (.blank n)

/-- The terms of a triple, its predicate included. -/
inductive Uses (t : Triple) : Term → Prop where
  | subject : Uses t (.node t.subject)
  | predicate : Uses t (.node (.iri t.predicate))
  | object : Uses t t.object

end Triple

/-- The term is one of a set, or a blank node. -/
def Term.OrBlank (S : Term → Prop) (x : Term) : Prop :=
  S x ∨ ∃ n, x = .node (.blank n)

theorem Term.OrBlank.of_ne {S : Term → Prop} {x : Term} (h : x.OrBlank S) (hx : ∀ n, x ≠ .node (.blank n)) : S x := by
  rcases h with h | ⟨n, hn⟩
  · exact h
  · exact absurd hn (hx n)

namespace Graph

theorem holds_iff {g : Graph} {t : Triple} : g.holds t = true ↔ ∃ u ∈ g.triples, t.same u = true := by
  rw [holds, List.any_eq_true]

/-- A graph holds a triple if it holds one that says the same. -/
theorem holds_of_same {g : Graph} {t u : Triple} (h : t.same u = true) (hu : g.holds u = true) :
    g.holds t = true := by
  obtain ⟨v, hv, huv⟩ := holds_iff.mp hu
  exact holds_iff.mpr ⟨v, hv, Triple.same_trans h huv⟩

/-- One insertion adds the triple at the end, or nothing if the graph holds it already. -/
theorem holds_insert {g : Graph} {t u : Triple} :
    (g.insert t).holds u = true ↔ g.holds u = true ∨ u.same t = true := by
  unfold insert
  by_cases ht : g.holds t
  · rw [if_pos ht]
    constructor
    · exact .inl
    · intro h
      rcases h with h | h
      · exact h
      · exact holds_of_same h ht
  · rw [if_neg ht]
    simp only [holds_iff, List.mem_append, List.mem_singleton, or_and_right, exists_or, exists_eq_left]

/-- After an insertion a graph holds what it held and what says the same as an inserted triple. -/
theorem holds_insertAll {g : Graph} {ts : List Triple} {u : Triple} :
    (g.insertAll ts).holds u = true ↔ g.holds u = true ∨ ∃ t ∈ ts, u.same t = true := by
  unfold insertAll
  induction ts generalizing g with
  | nil => simp
  | cons t rest ih =>
    rw [List.foldl_cons, ih, holds_insert]
    simp only [List.mem_cons, exists_eq_or_imp, or_assoc]

/-- An insertion leaves the triples of a graph as they are and puts some of the inserted ones behind them. -/
theorem exists_added (g : Graph) (ts : List Triple) :
    ∃ added, (g.insertAll ts).triples = g.triples ++ added ∧ ∀ t ∈ added, t ∈ ts := by
  unfold insertAll
  induction ts generalizing g with
  | nil => exact ⟨[], by simp, by simp⟩
  | cons t rest ih =>
    rw [List.foldl_cons]
    obtain ⟨added, heq, hadded⟩ := ih (g.insert t)
    by_cases ht : g.holds t
    · refine ⟨added, ?_, fun u hu => List.mem_cons_of_mem _ (hadded u hu)⟩
      rw [heq, insert, if_pos ht]
    · refine ⟨t :: added, ?_, ?_⟩
      · rw [heq, insert, if_neg ht, List.append_assoc, List.singleton_append]
      · intro u hu
        rcases List.mem_cons.mp hu with rfl | hu
        · exact List.mem_cons_self
        · exact List.mem_cons_of_mem _ (hadded u hu)

/-- A triple without a literal is said in a graph only if it is among its triples. -/
theorem mem_of_holds {g : Graph} {t : Triple} (h : g.holds t = true) {n : Node} (hobject : t.object = .node n) :
    t ∈ g.triples := by
  obtain ⟨u, hu, hsame⟩ := holds_iff.mp h
  rwa [← Triple.eq_of_same hsame hobject]

/-- The term is one of a triple of the graph. -/
def Uses (g : Graph) (x : Term) : Prop :=
  ∃ t ∈ g.triples, t.Uses x

/-! ## Copies -/

/-- No triple says the same as one that came before it. -/
def Distinct (g : Graph) : Prop :=
  g.triples.Pairwise fun t u => ¬ u.same t = true

theorem Distinct.insert {g : Graph} (h : g.Distinct) (t : Triple) : (g.insert t).Distinct := by
  unfold Graph.insert
  by_cases ht : g.holds t
  · rwa [if_pos ht]
  · rw [if_neg ht]
    refine List.pairwise_append.mpr ⟨h, List.pairwise_singleton _ _, ?_⟩
    intro u hu v hv hsame
    rw [List.mem_singleton.mp hv] at hsame
    exact ht (holds_iff.mpr ⟨u, hu, hsame⟩)

theorem Distinct.insertAll {g : Graph} (h : g.Distinct) (ts : List Triple) : (g.insertAll ts).Distinct := by
  unfold Graph.insertAll
  induction ts generalizing g with
  | nil => exact h
  | cons t rest ih => exact ih (h.insert t)

/-- Triples that nothing in a graph says, nor any triple before them, are all added. -/
theorem insertAll_of_distinct {g : Graph} {ts : List Triple} (h : (Graph.mk (g.triples ++ ts)).Distinct) :
    g.insertAll ts = ⟨g.triples ++ ts⟩ := by
  induction ts generalizing g with
  | nil => exact congrArg Graph.mk (List.append_nil g.triples).symm
  | cons t rest ih =>
    have hnew : ¬ g.holds t := by
      intro ht
      obtain ⟨u, hu, hsame⟩ := holds_iff.mp ht
      exact (List.pairwise_append.mp h).2.2 u hu t List.mem_cons_self hsame
    rw [List.append_cons] at h ⊢
    show (g.insert t).insertAll rest = _
    rw [Graph.insert, if_neg hnew]
    exact ih h

/-- A copy of a graph holds its triples, no more and no less, in the same order. -/
theorem Distinct.copy {g : Graph} (h : g.Distinct) : ({} : Graph).insertAll g.triples = g :=
  insertAll_of_distinct h

theorem distinct_empty : ({} : Graph).Distinct :=
  List.Pairwise.nil

/-! ## Blank nodes -/

/-- All blank nodes in the graph have numbers below the given one. -/
def Below (g : Graph) (next : Nat) : Prop :=
  ∀ t ∈ g.triples, ∀ n, t.Mentions n → n < next

end Graph

end GraphLift
