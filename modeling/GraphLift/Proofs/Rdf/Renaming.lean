import GraphLift.Proofs.Rdf.Graph
import Mathlib.Logic.Equiv.Defs

/-! # Renaming blank nodes

    Blank nodes are numbers, and which numbers they are says nothing: two graphs are the same if a permutation of the
    numbers takes what the one holds to what the other holds.

    * **Renaming** changes the numbers of blank nodes and nothing else.
    * **Sameness** (`Graph.Isomorphic`) does not depend on which of two graphs comes first.
-/

namespace GraphLift

/-! ## Terms and triples -/

/-- The node with its number replaced, if it is a blank node. -/
def Node.rename (f : Nat → Nat) : Node → Node
  | .iri s => .iri s
  | .blank n => .blank (f n)

/-- The term with its number replaced, if it is a blank node. -/
def Term.rename (f : Nat → Nat) : Term → Term
  | .node n => .node (n.rename f)
  | .literal l => .literal l

/-- The triple with the numbers of its blank nodes replaced. -/
def Triple.rename (f : Nat → Nat) (t : Triple) : Triple :=
  ⟨t.subject.rename f, t.predicate, t.object.rename f⟩

theorem Node.rename_comp (f h : Nat → Nat) (n : Node) : (n.rename f).rename h = n.rename (h ∘ f) := by
  cases n <;> rfl

theorem Node.rename_id (n : Node) : n.rename id = n := by
  cases n <;> rfl

theorem Term.rename_comp (f h : Nat → Nat) (o : Term) : (o.rename f).rename h = o.rename (h ∘ f) := by
  cases o with
  | node n => exact congrArg Term.node (n.rename_comp f h)
  | literal l => rfl

theorem Term.rename_id (o : Term) : o.rename id = o := by
  cases o with
  | node n => exact congrArg Term.node n.rename_id
  | literal l => rfl

@[simp] theorem Node.rename_symm_rename (σ : Equiv.Perm Nat) (n : Node) : (n.rename σ.symm).rename σ = n := by
  rw [rename_comp, σ.self_comp_symm, rename_id]

theorem Node.rename_injective (σ : Equiv.Perm Nat) : Function.Injective (Node.rename σ) := by
  intro n n' h
  cases n with
  | iri s =>
    cases n' with
    | iri s' => exact h
    | blank i' => cases h
  | blank i =>
    cases n' with
    | iri s' => cases h
    | blank i' => exact congrArg Node.blank (σ.injective (Node.blank.inj h))

namespace Triple

theorem rename_comp (f h : Nat → Nat) (t : Triple) : (t.rename f).rename h = t.rename (h ∘ f) := by
  unfold rename
  rw [Node.rename_comp, Term.rename_comp]

theorem rename_id (t : Triple) : t.rename id = t := by
  unfold rename
  rw [Node.rename_id, Term.rename_id]

theorem folded_rename (f : Nat → Nat) (t : Triple) : (t.rename f).folded = t.folded.rename f := by
  obtain ⟨s, p, o⟩ := t
  cases o <;> rfl

/-- Whatever says the same as a renamed triple is itself renamed. -/
theorem same_rename_iff {f : Nat → Nat} {t u : Triple} :
    t.same (u.rename f) = true ↔ ∃ v : Triple, v.same u = true ∧ t = v.rename f := by
  constructor
  · intro h
    obtain ⟨s, p, o⟩ := t
    obtain ⟨s', p', o'⟩ := u
    have hfolded := same_iff.mp h
    cases o' with
    | node n =>
      -- without a literal the triple is the renamed one
      have heq := eq_of_same (same_symm h) rfl
      exact ⟨_, same_refl _, heq⟩
    | literal l =>
      cases o with
      | node n =>
        simp [folded, Triple.rename, Term.rename, Term.folded] at hfolded
      | literal l' =>
        simp only [folded, Triple.rename, Term.rename, Triple.mk.injEq] at hfolded
        obtain ⟨rfl, rfl, hobject⟩ := hfolded
        refine ⟨⟨s', p, .literal l'⟩, same_iff.mpr ?_, rfl⟩
        exact congrArg (Triple.mk s' p) hobject
  · intro h
    obtain ⟨v, hsame, rfl⟩ := h
    rw [same_iff, folded_rename, folded_rename, same_iff.mp hsame]

variable (σ : Equiv.Perm Nat)

@[simp] theorem rename_symm_rename (t : Triple) : (t.rename σ.symm).rename σ = t := by
  rw [rename_comp, σ.self_comp_symm, rename_id]

@[simp] theorem rename_rename_symm (t : Triple) : (t.rename σ).rename σ.symm = t := by
  rw [rename_comp, σ.symm_comp_self, rename_id]

theorem rename_inj {t u : Triple} : t.rename σ = u.rename σ ↔ t = u := by
  constructor
  · intro h
    have := congrArg (rename σ.symm) h
    rwa [rename_rename_symm, rename_rename_symm] at this
  · intro h
    rw [h]

/-- Renaming keeps triples apart that do not say the same, and the others together. -/
theorem same_rename (t u : Triple) : (t.rename σ).same (u.rename σ) = t.same u := by
  rw [Bool.eq_iff_iff, same_iff, same_iff, folded_rename, folded_rename]
  exact rename_inj σ

end Triple

/-! ## Graphs -/

namespace Graph

/-- The graphs are the same up to a renaming of blank nodes, which takes no two of them to one. -/
def Isomorphic (g g' : Graph) : Prop :=
  ∃ σ : Equiv.Perm Nat, ∀ t, g'.holds (t.rename σ) = g.holds t

theorem Isomorphic.refl (g : Graph) : g.Isomorphic g :=
  ⟨Equiv.refl Nat, fun t => congrArg g.holds t.rename_id⟩

theorem Isomorphic.symm {g g' : Graph} (h : g.Isomorphic g') : g'.Isomorphic g := by
  obtain ⟨σ, h⟩ := h
  refine ⟨σ.symm, ?_⟩
  intro t
  rw [← h, Triple.rename_symm_rename]

theorem Isomorphic.trans {g g' g'' : Graph} (h : g.Isomorphic g') (h' : g'.Isomorphic g'') : g.Isomorphic g'' := by
  obtain ⟨σ, h⟩ := h
  obtain ⟨τ, h'⟩ := h'
  refine ⟨σ.trans τ, ?_⟩
  intro t
  rw [← h t, ← h' (t.rename σ), Triple.rename_comp]
  rfl

end Graph

end GraphLift
