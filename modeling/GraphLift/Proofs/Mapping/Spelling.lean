import GraphLift.Proofs.Mapping.Success
import GraphLift.Proofs.MediaType
import GraphLift.Proofs.Pattern.Expansion

/-! # Names of instances and the spelling of media types

    The instances of a node template may be named after media types, which are spelled in many ways. The name depends on
    the plain form only, if the template does not tell spellings apart itself: its replacements are for plain forms, and
    its format has text of its own, so that there is always a name before the base value would be one.

    * **Replacements** (`GoesByPlainForm.replacement_eq`): the one for the value as it is spelled never comes to bear.
    * **Formats** (`Pattern.not_blank_of_expand`) with text of their own are never filled in to a blank text.
    * **Names** (`NodeTemplate.iriFor_spelling`) are the same for all spellings. A base value that is missing has the plain
      form of the empty text, but it is not replaced as that may be (`NodeTemplate.iriFor_missing`).
-/

namespace GraphLift

open Outcome

/-! ## Formats with text of their own -/

namespace Pattern

/-- Somewhere between its markers, the pattern has a text that is not blank. -/
def HasText (pattern : String) : Prop :=
  ∃ s, Piece.text s ∈ pieces pattern ∧ Text.isBlank s = false

theorem isBlank_join (texts : List String) : Text.isBlank (String.join texts) = texts.all Text.isBlank := by
  induction texts with
  | nil => rfl
  | cons s rest ih =>
    rw [String.join_cons, List.all_cons, ← ih]
    unfold Text.isBlank
    rw [String.toList_append, List.all_append]

/-- A text of its own keeps the pattern from being blank. -/
theorem HasText.not_blank {pattern : String} (h : HasText pattern) : Text.isBlank pattern = false := by
  obtain ⟨s, hmem, hs⟩ := h
  have hwritten : written (pieces pattern) = pattern := String.toList_inj.mp (toList_written_readPieces pattern.toList)
  rw [← hwritten, written, isBlank_join, List.all_eq_false]
  exact ⟨s, List.mem_map.mpr ⟨.text s, hmem, rfl⟩, by rw [hs]; exact Bool.false_ne_true⟩

/-- What is put in for the markers does not make the text between them blank. -/
theorem HasText.not_blank_of_expand [Library] {b : Bindings} {pattern r : String} (htext : HasText pattern)
    (h : expand b pattern = .ok r) : Text.isBlank r = false := by
  obtain ⟨s, hmem, hs⟩ := htext
  obtain ⟨texts, hbecomes, rfl⟩ := expandPieces_eq_ok_iff.mp h
  obtain ⟨i, hi⟩ := List.mem_iff_getElem?.mp hmem
  obtain ⟨u, hu, hsame⟩ := hbecomes.exists_right hi
  cases hsame
  rw [isBlank_join, List.all_eq_false]
  exact ⟨s, List.mem_of_getElem? hu, by rw [hs]; exact Bool.false_ne_true⟩

end Pattern

/-! ## Names -/

/-- The plain form of a base value; a missing one counts as the empty text. -/
def plainForm (base : Option String) : String :=
  (base.map MediaType.normalize).getD ""

theorem plainForm_none : plainForm none = "" := rfl

theorem plainForm_some (b : String) : plainForm (some b) = MediaType.normalize b := by
  unfold plainForm
  rw [Option.map_some, Option.getD_some]

theorem plainForm_trim (base : Option String) : plainForm (base.map Text.trim) = plainForm base := by
  cases base with
  | none => rw [Option.map_none]
  | some b => rw [Option.map_some, plainForm_some, plainForm_some, MediaType.normalize_trim]

namespace NodeTemplate

/-- The node template does not tell spellings of a media type apart: it has no name of its own, all of its replacements are
    for plain forms, and its format has text that is not blank. -/
structure GoesByPlainForm (n : NodeTemplate) (pattern : String) : Prop where
  const : Text.isMissing n.const = true
  keys : ∀ e ∈ n.valueMap, MediaType.normalize e.1 = e.1
  format : n.format = some pattern
  text : Pattern.HasText pattern

variable {n : NodeTemplate} {pattern : String} {f : Finder}

/-- If the value is replaced as it is spelled, it is in its plain form already. -/
theorem GoesByPlainForm.replacement_eq (h : n.GoesByPlainForm pattern) (base : String) :
    n.replacement base = Json.lookup (MediaType.normalize base) n.valueMap := by
  unfold replacement
  rw [← MediaType.normalize_eq]
  cases hplain : Json.lookup (MediaType.normalize base) n.valueMap with
  | some target => rfl
  | none =>
    rw [Option.none_or]
    cases hspelled : Json.lookup base n.valueMap with
    | none => rfl
    | some target =>
      obtain ⟨⟨key, v⟩, hfound, _⟩ := Option.map_eq_some_iff.mp hspelled
      have hkey : key = base := by simpa using List.find?_some hfound
      have hnormal := h.keys _ (List.mem_of_find?_eq_some hfound)
      rw [hkey] at hnormal
      -- the lookup under the plain form would have found the same
      rw [hnormal, hspelled] at hplain
      cases hplain

/-- The replacement of the plain form of a base value. -/
def plainReplacement (n : NodeTemplate) (base : Option String) : Option String :=
  base.bind fun b => Json.lookup (MediaType.normalize b) n.valueMap

theorem plainReplacement_some (b : String) :
    n.plainReplacement (some b) = Json.lookup (plainForm (some b)) n.valueMap := by
  unfold plainReplacement
  rw [Option.bind_some, plainForm_some]

theorem plainReplacement_trim (base : Option String) :
    n.plainReplacement (base.map Text.trim) = n.plainReplacement base := by
  cases base with
  | none => rw [Option.map_none]
  | some b =>
    rw [Option.map_some, plainReplacement_some, plainReplacement_some, ← Option.map_some, plainForm_trim]

section

variable [Library]

/-- The format, filled in with the plain form of a base value. -/
def plainName (pattern : String) (base : Option String) (f : Finder) : Except Failure (Option String) :=
  (Pattern.expand { finder := some f, value := some (plainForm base) } pattern).map some

/-- The name of an instance is the replacement of the plain form, or the format filled in with it. -/
theorem GoesByPlainForm.fromBase_eq (h : n.GoesByPlainForm pattern) (base : Option String) (f : Finder) :
    n.fromBase base f =
      if Text.isMissing (n.plainReplacement base) then plainName pattern base f else .ok (n.plainReplacement base) := by
  have hreplaced : base.bind n.replacement = n.plainReplacement base :=
    congrArg (Option.bind base) (funext h.replacement_eq)
  have hformat : n.fromFormat base f = plainName pattern base f := by
    have hpattern : notBlank? n.format = some pattern := notBlank?_eq_some.mpr ⟨h.format, h.text.not_blank⟩
    unfold fromFormat plainName
    rw [hpattern]
    rfl
  unfold fromBase
  rw [hreplaced, hformat]
  dsimp only
  split
  · unfold plainName
    cases hexpand : Pattern.expand { finder := some f, value := some (plainForm base) } pattern with
    | error e => rfl
    | ok r =>
      have hr : Text.isMissing (some r) = false := h.text.not_blank_of_expand hexpand
      show Except.ok (if Text.isMissing (some r) && _ then _ else _) = _
      rw [hr]
      rfl
  · next hthere =>
    have hthere : Text.isMissing (n.plainReplacement base) = false := by simpa using hthere
    show Except.ok (if Text.isMissing (n.plainReplacement base) && _ then _ else _) = _
    rw [hthere]
    rfl

/-- There is always a name, so that nothing is reported, and blanks around the base value do not matter to it. -/
theorem GoesByPlainForm.iriFor_eq (h : n.GoesByPlainForm pattern) (base : Option String) (f : Finder) :
    n.iriFor base f = Traced.lift
      (if Text.isMissing (n.plainReplacement base) then plainName pattern base f
        else .ok (n.plainReplacement base)) := by
  have hconst : notBlank? n.const = none := if_pos h.const
  have hfrom := h.fromBase_eq (base.map Text.trim) f
  rw [plainReplacement_trim, show plainName pattern (base.map Text.trim) f = plainName pattern base f by
    unfold plainName
    rw [plainForm_trim]] at hfrom
  have hnamed : ∀ iri, n.fromBase (base.map Text.trim) f = .ok iri → Text.isMissing iri = false := by
    intro iri hiri
    rw [hfrom] at hiri
    split at hiri
    · obtain ⟨r, hr, rfl⟩ := map_eq_ok.mp hiri
      exact h.text.not_blank_of_expand hr
    · next hthere =>
      cases hiri
      simpa using hthere
  rw [← hfrom]
  unfold iriFor
  rw [hconst]
  show (Traced.lift (n.fromBase (base.map Text.trim) f) >>= fun iri => _) = _
  cases hiri : n.fromBase (base.map Text.trim) f with
  | error e => rfl
  | ok iri =>
    show (if Text.isMissing iri = true then _ else _) = _
    rw [hnamed iri hiri]
    rfl

omit [Library] in
/-- A missing base value is named like a text with the same plain form, unless there is a replacement for the empty
    text. -/
theorem plainReplacement_congr {base base' : Option String} (hplain : plainForm base = plainForm base')
    (hempty : base.isSome = base'.isSome ∨ Text.isMissing (Json.lookup "" n.valueMap) = true) :
    n.plainReplacement base = n.plainReplacement base' ∨
      Text.isMissing (n.plainReplacement base) = true ∧ Text.isMissing (n.plainReplacement base') = true := by
  cases base with
  | none =>
    cases base' with
    | none => exact .inl rfl
    | some b' =>
      refine .inr ⟨rfl, ?_⟩
      rw [plainReplacement_some, ← hplain, plainForm_none]
      exact hempty.resolve_left Bool.false_ne_true
  | some b =>
    rw [plainReplacement_some]
    cases base' with
    | none =>
      refine .inr ⟨?_, rfl⟩
      rw [hplain, plainForm_none]
      exact hempty.resolve_left (Ne.symm Bool.false_ne_true)
    | some b' =>
      rw [plainReplacement_some, hplain]
      exact .inl rfl

/-- Base values with the same plain form name an instance alike. A missing one has no replacement, and has to be told from
    a text only where there is one for the empty text. -/
theorem GoesByPlainForm.iriFor_congr (h : n.GoesByPlainForm pattern) {base base' : Option String}
    (hplain : plainForm base = plainForm base')
    (hempty : base.isSome = base'.isSome ∨ Text.isMissing (Json.lookup "" n.valueMap) = true) (f : Finder) :
    n.iriFor base f = n.iriFor base' f := by
  have hname : plainName pattern base f = plainName pattern base' f := by
    unfold plainName
    rw [hplain]
  rw [h.iriFor_eq, h.iriFor_eq, hname]
  rcases plainReplacement_congr hplain hempty with hsame | ⟨hmissing, hmissing'⟩
  · rw [hsame]
  · rw [if_pos hmissing, if_pos hmissing']

/-- **A name does not depend on how a media type is spelled.** Base values with the same plain form have the same name; a
    missing one may be among them, unless there is a replacement for the empty text. In particular parameters, blanks
    around and the case of basic Latin letters do not matter. The format is filled in with the plain form, which has
    nothing of the parameters. -/
theorem iriFor_spelling (n : NodeTemplate) (pattern : String) (f : Finder) (h : n.GoesByPlainForm pattern) :
    (∀ base base' : Option String, plainForm base = plainForm base' →
        (base.isSome = base'.isSome ∨ Text.isMissing (Json.lookup "" n.valueMap) = true) →
        n.iriFor base f = n.iriFor base' f) ∧
      (∀ b parameters : String, n.iriFor (some (b ++ ";" ++ parameters)) f = n.iriFor (some b) f) ∧
      (∀ l b r : String, Text.isBlank l = true → Text.isBlank r = true →
        n.iriFor (some (l ++ b ++ r)) f = n.iriFor (some b) f) ∧
      (∀ b b' : String, Text.SameLetters b b' → n.iriFor (some b) f = n.iriFor (some b') f) ∧
      (∀ b : String, ';' ∉ (MediaType.normalize b).toList ∧
        ((n.iriFor (some b) f).outcome = .ok (Json.lookup (MediaType.normalize b) n.valueMap) ∨
          (n.iriFor (some b) f).outcome =
            (Pattern.expand { finder := some f, value := some (MediaType.normalize b) } pattern).map some)) := by
  have htexts : ∀ b b' : String, MediaType.normalize b = MediaType.normalize b' →
      n.iriFor (some b) f = n.iriFor (some b') f := by
    intro b b' hplain
    rw [← plainForm_some, ← plainForm_some] at hplain
    exact h.iriFor_congr hplain (.inl rfl) f
  refine ⟨fun base base' hplain hempty => h.iriFor_congr hplain hempty f, ?_, ?_, ?_, ?_⟩
  · intro b parameters
    exact htexts _ _ (MediaType.normalize_parameters b parameters)
  · intro l b r hl hr
    exact htexts _ _ (MediaType.normalize_between hl hr b)
  · intro b b' hletters
    exact htexts _ _ (MediaType.normalize_sameLetters hletters)
  · intro b
    refine ⟨MediaType.semicolon_not_mem_normalize b, ?_⟩
    rw [h.iriFor_eq, Traced.outcome_lift, plainReplacement_some, plainName, plainForm_some]
    split
    · exact .inr rfl
    · exact .inl rfl

/-! ## Instances named after media types -/

end

/-- The format of names below a namespace. -/
def nameFormat : String := "http://e/$\x7bvalue\x7d"

theorem pieces_nameFormat : Pattern.pieces nameFormat = [.text "http://e/", .marker "value"] := by cbv

theorem plainName_nameFormat (base : Option String) (f : Finder) :
    plainName nameFormat base f = .ok (some ("http://e/" ++ plainForm base)) := by
  unfold plainName Pattern.expand
  rw [pieces_nameFormat]
  show (Except.map some (.ok ("http://e/" ++ (plainForm base ++ ""))) : Except Failure (Option String)) = _
  rw [String.append_empty]
  rfl

/-- The node template of media types, with replacements for some of them. -/
def ofMediaTypes (valueMap : List (String × String)) : NodeTemplate :=
  { id := "type", kind := .iri, format := some nameFormat, valueMap }

theorem goesByPlainForm_ofMediaTypes {valueMap : List (String × String)}
    (hkeys : ∀ e ∈ valueMap, MediaType.normalize e.1 = e.1) :
    (ofMediaTypes valueMap).GoesByPlainForm nameFormat := by
  refine ⟨rfl, hkeys, rfl, "http://e/", ?_, by decide⟩
  rw [pieces_nameFormat]
  exact List.mem_cons_self

/-- A missing base value and the empty text have the same plain form, but not the same name if the empty text is
    replaced. -/
theorem iriFor_missing :
    (ofMediaTypes [("", "http://e/none")]).GoesByPlainForm nameFormat ∧
      plainForm none = plainForm (some "") ∧
      ((ofMediaTypes [("", "http://e/none")]).iriFor none ⟨.object [], .object []⟩).outcome = .ok (some "http://e/") ∧
      ((ofMediaTypes [("", "http://e/none")]).iriFor (some "") ⟨.object [], .object []⟩).outcome =
        .ok (some "http://e/none") := by
  have hplain : (ofMediaTypes [("", "http://e/none")]).GoesByPlainForm nameFormat :=
    goesByPlainForm_ofMediaTypes (by decide)
  have hempty : plainForm (some "") = "" := by decide
  refine ⟨hplain, hempty.symm, ?_, ?_⟩
  · rw [hplain.iriFor_eq, Traced.outcome_lift, if_pos (by rfl), plainName_nameFormat]
    rfl
  · rw [hplain.iriFor_eq, Traced.outcome_lift, plainReplacement_some, hempty]
    rfl

/-- Text with a header is named in the format as it is without one, although there is a replacement for plain text. -/
theorem iriFor_spelling_ofMediaTypes :
    (ofMediaTypes [("text/plain", "http://e/plain")]).GoesByPlainForm nameFormat ∧
      ((ofMediaTypes [("text/plain", "http://e/plain")]).iriFor (some "Text/CSV; header=present")
        ⟨.object [], .object []⟩).outcome = .ok (some "http://e/text/csv") := by
  have hplain : (ofMediaTypes [("text/plain", "http://e/plain")]).GoesByPlainForm nameFormat :=
    goesByPlainForm_ofMediaTypes (by decide)
  refine ⟨hplain, ?_⟩
  obtain ⟨_, hparameters, _, hletters, _⟩ := iriFor_spelling _ _ ⟨.object [], .object []⟩ hplain
  have hcut := hparameters "Text/CSV" " header=present"
  have hcase := hletters "Text/CSV" "text/csv" (by unfold Text.SameLetters; decide)
  have hform : plainForm (some "text/csv") = "text/csv" := by decide
  rw [show "Text/CSV; header=present" = "Text/CSV" ++ ";" ++ " header=present" from by decide, hcut, hcase,
    hplain.iriFor_eq, Traced.outcome_lift, plainReplacement_some, plainName_nameFormat, hform]
  rfl

end NodeTemplate

end GraphLift
