import GraphLift.Report.Failure

/-! # Runs that act on a state

    A stateful run leaves a state behind also when it fails.

    * **Outcome**: the value or the failure that a run comes to.
    * **After**: the state that it leaves behind in either case.
-/

namespace GraphLift

/-- A run that acts on a state of type `σ`. -/
abbrev Stateful (σ α : Type) := EStateM Failure σ α

namespace Stateful

variable {σ α β : Type}

/-- What comes out of a run. -/
def outcome (w : Stateful σ α) (s : σ) : Except Failure α :=
  match w s with
  | .ok a _ => .ok a
  | .error e _ => .error e

/-- What a run leaves behind. -/
def after (w : Stateful σ α) (s : σ) : σ :=
  match w s with
  | .ok _ s' => s'
  | .error _ s' => s'

/-! ## Laws -/

theorem outcome_bind (w : Stateful σ α) (k : α → Stateful σ β) (s : σ) :
    outcome (w >>= k) s = outcome w s >>= fun a => outcome (k a) (after w s) := by
  show outcome (EStateM.bind w k) s = _
  unfold outcome after EStateM.bind
  cases w s with
  | ok a s' => rfl
  | error e s' => rfl

theorem after_bind_of_ok {w : Stateful σ α} {s : σ} {a : α} (h : outcome w s = .ok a) (k : α → Stateful σ β) :
    after (w >>= k) s = after (k a) (after w s) := by
  show after (EStateM.bind w k) s = _
  unfold outcome at h
  unfold after EStateM.bind
  cases hw : w s with
  | ok a' s' =>
    rw [hw] at h
    cases h
    rfl
  | error e s' =>
    rw [hw] at h
    cases h

theorem after_bind_of_error {w : Stateful σ α} {s : σ} {e : Failure} (h : outcome w s = .error e)
    (k : α → Stateful σ β) : after (w >>= k) s = after w s := by
  show after (EStateM.bind w k) s = _
  unfold outcome at h
  unfold after EStateM.bind
  cases hw : w s with
  | ok a' s' =>
    rw [hw] at h
    cases h
  | error e s' => rfl

end Stateful

end GraphLift
