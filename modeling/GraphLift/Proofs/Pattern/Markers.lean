import GraphLift.Pattern.Expand

/-! # What markers stand for

    A marker is of one of four kinds, whatever a pattern is bound to, and for each kind there is one equation that says
    what comes in its place.

    * **The word `value`** (`substitute_valueWord`) is replaced by the bound value.
    * **An overlong number** (`substitute_of_isOverlong`) is a failure.
    * **A marker with a path behind it** (`Denotes`) is replaced by what the path leads to, if there is a finder.
    * **Any other marker** (`MeansNothing`) stays as it is.

    The expansion of a list of pieces is the run along the list, put together (`expandPieces_eq_mapM`).
-/

namespace GraphLift

namespace Pattern

variable {indexed : List String} {body path : String} {b : Bindings}

/-- The body is a number with more digits than are read. -/
def IsOverlong (body : String) : Prop :=
  isNumber body = true ∧ Text.maxDigits < body.length

instance (body : String) : Decidable (IsOverlong body) :=
  inferInstanceAs (Decidable (_ ∧ _))

/-- The path behind a marker. A number stands for the indexed path at its place, counted from one, and a body that
    starts with a dollar sign stands for itself. -/
inductive Denotes (indexed : List String) : String → String → Prop where
  | number {body path : String} {n : Nat} (hnumber : isNumber body = true)
      (hlength : body.length ≤ Text.maxDigits) (hn : Text.readDigits 0 body.toList = n + 1)
      (hpath : indexed[n]? = some path) : Denotes indexed body path
  | path {body : String} (hpath : isPath body = true) : Denotes indexed body body

/-- The body is neither the word for the value nor a number that is too long, and there is no path behind it. -/
structure MeansNothing (indexed : List String) (body : String) : Prop where
  not_value : body ≠ valueWord
  not_overlong : ¬ IsOverlong body
  not_denotes : ∀ path, ¬ Denotes indexed body path

/-- A body that is a number is no path. -/
theorem isPath_of_isNumber (h : isNumber body = true) : isPath body = false := by
  unfold isNumber at h
  unfold isPath
  cases hbody : body.toList with
  | nil => rfl
  | cons c r =>
    have hdigit : Text.isAsciiDigit c = true := by
      have hall : (c :: r).all Text.isAsciiDigit = true := by simpa [hbody] using (Bool.and_eq_true_iff.mp h).2
      exact (Bool.and_eq_true_iff.mp hall).1
    have hc : c ≠ '$' := by
      rintro rfl
      exact absurd hdigit (by decide)
    simpa using hc

theorem ne_valueWord_of_isNumber (h : isNumber body = true) : body ≠ valueWord := by
  rintro rfl
  exact absurd h (by decide)

theorem ne_valueWord_of_isPath (h : isPath body = true) : body ≠ valueWord := by
  rintro rfl
  exact absurd h (by decide)

/-- The path behind a marker is one of the indexed paths or the marker itself. -/
theorem Denotes.cases {P : String → Prop} (h : Denotes indexed body path) (hindexed : ∀ s ∈ indexed, P s)
    (hself : isPath body = true → P body) : P path := by
  cases h with
  | number _ _ _ hpath => exact hindexed path (List.mem_of_getElem? hpath)
  | path h => exact hself h

theorem Denotes.ne_valueWord (h : Denotes indexed body path) : body ≠ valueWord := by
  cases h with
  | number hnumber => exact ne_valueWord_of_isNumber hnumber
  | path hself => exact ne_valueWord_of_isPath hself

theorem Denotes.not_overlong (h : Denotes indexed body path) : ¬ IsOverlong body := by
  intro hlong
  cases h with
  | number _ hlength => exact Nat.not_lt.mpr hlength hlong.2
  | path hself => simp [isPath_of_isNumber hlong.1] at hself

/-- The kinds of markers. -/
theorem marker_cases (indexed : List String) (body : String) :
    body = valueWord ∨ IsOverlong body ∨ (∃ path, Denotes indexed body path) ∨ MeansNothing indexed body := by
  by_cases hvalue : body = valueWord
  · exact .inl hvalue
  by_cases hlong : IsOverlong body
  · exact .inr (.inl hlong)
  by_cases hpath : ∃ path, Denotes indexed body path
  · exact .inr (.inr (.inl hpath))
  exact .inr (.inr (.inr ⟨hvalue, hlong, fun path h => hpath ⟨path, h⟩⟩))

variable [Library]

/-! ## What comes in the place of a marker -/

theorem substitute_valueWord (b : Bindings) : substitute b valueWord = .ok (b.value.getD (raw valueWord)) := by
  simp [substitute, meaning]

theorem substitute_of_isOverlong (h : IsOverlong body) :
    substitute b body = .error (.value (.tooManyDigits body.length)) := by
  simp [substitute, meaning, ne_valueWord_of_isNumber h.1, h.1, Nat.not_le.mpr h.2]

/-- The path behind a marker is looked up. Without a finder the marker stays as it is. -/
theorem substitute_of_denotes (h : Denotes b.indexed body path) :
    substitute b body = b.finder.elim (.ok (raw body)) fun f => lookUp f path := by
  cases h with
  | number hnumber hlength hn hpath =>
    simp only [substitute, meaning, if_neg (ne_valueWord_of_isNumber hnumber), if_pos hnumber, if_pos hlength, hn]
    cases b.finder with
    | none => rfl
    | some f => simp [hpath]
  | path hself =>
    have hnumber : ¬ isNumber body = true := fun hnumber => by simp [isPath_of_isNumber hnumber] at hself
    simp only [substitute, meaning, if_neg (ne_valueWord_of_isPath hself), if_neg hnumber, if_pos hself]
    cases b.finder <;> rfl

theorem substitute_of_meansNothing (h : MeansNothing b.indexed body) : substitute b body = .ok (raw body) := by
  have hself : isPath body = false := by simpa using fun hself => h.not_denotes body (.path hself)
  by_cases hnumber : isNumber body = true
  · have hlength : body.length ≤ Text.maxDigits := Nat.le_of_not_lt fun hlong => h.not_overlong ⟨hnumber, hlong⟩
    -- the number is zero, or there is no indexed path at its place
    have hplace : (if Text.readDigits 0 body.toList = 0 then none
        else b.indexed[Text.readDigits 0 body.toList - 1]?) = none := by
      cases hn : Text.readDigits 0 body.toList with
      | zero => rfl
      | succ n =>
        cases hpath : b.indexed[n]? with
        | none => simpa using hpath
        | some path => exact absurd (.number hnumber hlength hn hpath) (h.not_denotes path)
    simp only [substitute, meaning, if_neg h.not_value, if_pos hnumber, if_pos hlength, hplace]
    cases b.finder <;> rfl
  · simp [substitute, meaning, h.not_value, hnumber, hself]

theorem expandPieces_eq_mapM (b : Bindings) (ps : List Piece) :
    expandPieces b ps = (ps.mapM (expandPiece b)).map String.join := by
  induction ps with
  | nil => rfl
  | cons p rest ih =>
    rw [expandPieces, List.mapM_cons, ih]
    cases expandPiece b p with
    | error e => rfl
    | ok s =>
      cases rest.mapM (expandPiece b) with
      | error e => rfl
      | ok texts => exact congrArg Except.ok String.join_cons.symm

end Pattern

end GraphLift
