import GraphLift.Mapping.Writing

/-! # The steps of a run

    A run of a mapper is put together from few kinds of steps, however templates are nested and whatever a document
    holds. What every step keeps, the whole run keeps, also one that fails half way.

    * **`Writing.Stepwise`** lists the steps and how runs are put together.
    * **`Mapper.stepwise_write`**: the run of a mapper is of this form. Resources are entered at a depth that does not
      exceed `maxDepth`, which the guard in front of instances provides for.
    * **`Writing.Stepwise.depths_le`** is what follows for the depths of a run.
-/

namespace GraphLift

namespace Writing

/-- Runs that are put together from the steps of a mapper. -/
inductive Stepwise : {α : Type} → Writing α → Prop where
  | pure {α : Type} (a : α) : Stepwise (pure a : Writing α)
  | throw {α : Type} (e : Failure) : Stepwise (throw e : Writing α)
  | consult {α : Type} (x : Traced α) : Stepwise (consult x)
  | make (i : Identity) : Stepwise (make i)
  | add (t : Triple) : Stepwise (add t)
  /-- No resource is made beyond the depth that is allowed. -/
  | enter {depth : Nat} (h : depth ≤ maxDepth) : Stepwise (enter depth)
  | bind {α β : Type} {w : Writing α} {k : α → Writing β} (first : Stepwise w) (rest : ∀ a, Stepwise (k a)) :
      Stepwise (w >>= k)

namespace Stepwise

variable {α β : Type}

theorem mapM {w : α → Writing β} (h : ∀ a, Stepwise (w a)) (l : List α) : Stepwise (l.mapM w) := by
  induction l with
  | nil => exact .pure []
  | cons a rest ih =>
    rw [List.mapM_cons]
    exact (h a).bind fun b => ih.bind fun bs => .pure (b :: bs)

theorem forM {w : α → Writing Unit} (h : ∀ a, Stepwise (w a)) (l : List α) : Stepwise (l.forM w) := by
  induction l with
  | nil => exact .pure ()
  | cons a rest ih => exact (h a).bind fun _ => ih

end Stepwise

end Writing

/-! ## The run of a mapper -/

open Writing

theorem Value.stepwise_make (v : Value) : Stepwise v.make := by
  cases v with
  | literal l => exact .pure _
  | resource d =>
    obtain ⟨identity, _, _⟩ := d
    exact (Stepwise.make identity).bind fun node => .pure _

namespace Mapper

variable {table : PrefixTable} {write : Property → Writing (List Term)}

theorem stepwise_writeProperty (h : ∀ p, Stepwise (write p)) (node : Node) (key : String) (p : Property) :
    Stepwise (writeProperty table write node key p) := by
  unfold writeProperty
  refine (Stepwise.consult _).bind fun expanded => ?_
  cases expanded with
  | none => exact .consult _
  | some predicate => exact (h p).bind fun os => .forM (fun o => .add _) os

theorem stepwise_writeResource (h : ∀ p, Stepwise (write p)) {depth : Nat} (hdepth : depth ≤ maxDepth)
    (identity : Traced Identity) (type : Option Reference) (properties : List (String × Property)) :
    Stepwise (writeResource table write depth identity type properties) := by
  have hproperty : ∀ node (p : String × Property), Stepwise (writeProperty table write node p.1 p.2) :=
    fun node p => stepwise_writeProperty h node p.1 p.2
  unfold writeResource
  refine .bind (.consult _) fun identity => ?_
  refine .bind (.make identity) fun node => ?_
  refine .bind (.enter hdepth) fun _ => ?_
  refine .bind (.consult _) fun type => ?_
  refine .bind (.forM .add _) fun _ => ?_
  exact .bind (.forM (hproperty node) properties) fun _ => .pure node

variable [Library]

/-- Only instances below the limit are written, and these are one deeper. -/
theorem stepwise_writeObjects (t : ResourceTemplate) (f : Finder) (depth : Nat) (p : Property) :
    Stepwise (writeObjects t table f depth p) := by
  induction depth, p using writeObjects_induction t with
  | value depth p hkind =>
    rw [writeObjects_of_ne hkind]
    exact (Stepwise.consult _).bind fun vs => .mapM Value.stepwise_make vs
  | unknown depth p hkind hnode =>
    rw [writeObjects_of_unknown hkind hnode]
    exact (Stepwise.consult _).bind fun _ => .pure []
  | deep depth p n hkind hnode hdepth =>
    rw [writeObjects_of_deep hkind hnode hdepth]
    exact .throw _
  | node depth p n hkind hnode hdepth hinner =>
    rw [writeObjects_of_node hkind hnode hdepth]
    refine (Stepwise.consult _).bind fun bases => .mapM (fun base => ?_) bases
    exact (stepwise_writeResource hinner hdepth _ _ _).bind fun node => .pure _

theorem stepwise_write (m : Mapper) (document : Json) : Stepwise (m.write document) := by
  unfold write
  refine (Stepwise.consult _).bind fun f => (Stepwise.consult _).bind fun scopes => .mapM (fun f' => ?_) scopes
  exact stepwise_writeResource (stepwise_writeObjects m.template f' 0) (Nat.zero_le maxDepth) _ _ _

end Mapper

/-! ## Depths -/

/-- A run never enters a resource beyond the depth that is allowed, also if it fails. -/
theorem Writing.Stepwise.depths_le {α : Type} {w : Writing α} (h : Stepwise w) {s : Store}
    (hs : ∀ d ∈ s.depths, d ≤ maxDepth) : ∀ d ∈ (w.after s).depths, d ≤ maxDepth := by
  induction h generalizing s with
  | pure a => exact hs
  | throw e => exact hs
  | consult x =>
    rw [after_consult]
    exact hs
  | make i => exact hs
  | add t => exact hs
  | @enter depth hdepth =>
    intro d hd
    rcases List.mem_append.mp hd with hd | hd
    · exact hs d hd
    · rw [List.mem_singleton.mp hd]
      exact hdepth
  | @bind _ _ w k _ _ first rest =>
    cases hout : w.outcome s with
    | ok a =>
      rw [after_bind_of_ok hout]
      exact rest a (first hs)
    | error e =>
      rw [after_bind_of_error hout]
      exact first hs

end GraphLift
