import GraphLift.Report.Event
import GraphLift.Report.Failure

/-! # Runs that report

    A `Traced` run has a list of records and an outcome. Records are kept when the run fails.

    * **Sequencing** appends the records of the second run, unless the first one failed.
    * **Outcome** (`outcome_bind`): what comes out of a sequence does not depend on the records.
-/

namespace GraphLift

/-- A value or a failure, together with what was reported on the way. -/
structure Traced (α : Type) where
  records : List Record
  outcome : Except Failure α

namespace Traced

/-- Runs `f` on the value of `x`, if there is one. -/
protected def bind {α β : Type} (x : Traced α) (f : α → Traced β) : Traced β :=
  match x.outcome with
  | .error e => ⟨x.records, .error e⟩
  | .ok a => ⟨x.records ++ (f a).records, (f a).outcome⟩

instance : Monad Traced where
  pure a := ⟨[], .ok a⟩
  bind := Traced.bind

instance : MonadExceptOf Failure Traced where
  throw e := ⟨[], .error e⟩
  tryCatch x f :=
    match x.outcome with
    | .error e => ⟨x.records ++ (f e).records, (f e).outcome⟩
    | .ok _ => x

/-- A computation without reports. -/
def lift {α : Type} (x : Except Failure α) : Traced α := ⟨[], x⟩

instance : MonadLift (Except Failure) Traced where
  monadLift := lift

/-- Reports an event. -/
def report (e : Event) : Traced Unit := ⟨[⟨e, false⟩], .ok ()⟩

/-- The run with all its records marked, so that every reader sees them. -/
def marked {α : Type} (x : Traced α) : Traced α :=
  ⟨x.records.map fun r => ⟨r.event, true⟩, x.outcome⟩

/-! ## Laws -/

@[simp] theorem outcome_pure {α : Type} (a : α) : (pure a : Traced α).outcome = .ok a := rfl

@[simp] theorem records_pure {α : Type} (a : α) : (pure a : Traced α).records = [] := rfl

/-- The outcome of a sequence is the sequence of the outcomes. -/
@[simp] theorem outcome_bind {α β : Type} (x : Traced α) (f : α → Traced β) :
    (x >>= f).outcome = x.outcome >>= fun a => (f a).outcome := by
  show (Traced.bind x f).outcome = _
  unfold Traced.bind
  cases x.outcome <;> rfl

theorem records_bind_of_ok {α β : Type} {x : Traced α} {a : α} (h : x.outcome = .ok a) (f : α → Traced β) :
    (x >>= f).records = x.records ++ (f a).records := by
  show (Traced.bind x f).records = _
  rw [Traced.bind, h]

theorem records_bind_of_error {α β : Type} {x : Traced α} {e : Failure} (h : x.outcome = .error e) (f : α → Traced β) :
    (x >>= f).records = x.records := by
  show (Traced.bind x f).records = _
  rw [Traced.bind, h]

@[simp] theorem outcome_marked {α : Type} (x : Traced α) : x.marked.outcome = x.outcome := rfl

@[simp] theorem outcome_lift {α : Type} (x : Except Failure α) : (lift x).outcome = x := rfl

@[simp] theorem records_lift {α : Type} (x : Except Failure α) : (lift x).records = [] := rfl

instance : LawfulMonad Traced := LawfulMonad.mk' Traced
  (by
    intro α x
    show Traced.bind x _ = x
    cases x with | mk r o => cases o <;> simp [Traced.bind])
  (by
    intro α β a f
    show Traced.bind _ f = f a
    simp [Traced.bind])
  (by
    intro α β γ x f g
    show Traced.bind (Traced.bind x f) g = Traced.bind x (fun a => Traced.bind (f a) g)
    cases x with | mk r o =>
      cases o with
      | error e => rfl
      | ok a =>
        simp only [Traced.bind]
        cases (f a).outcome <;> simp)

end Traced

end GraphLift
