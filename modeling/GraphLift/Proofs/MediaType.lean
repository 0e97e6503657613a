import GraphLift.MediaType
import GraphLift.Proofs.Text.LetterCase

/-! # The plain form of a media type

    Media types that are spelled differently have the same plain form.

    * **One form** (`normalize_eq`): whether a value has a type and a subtype does not matter, since the parts are put
      together again as they were.
    * **Parameters** are cut off (`stripParameters_eq`), **blanks** at the ends do not matter, and neither does the **case**
      of basic Latin letters.
    * **Nothing is left to be done** (`normalize_laws`): a plain form has no semicolon, no blanks at its ends and no other
      plain form.
-/

namespace GraphLift.MediaType

open Text

/-! ## Parameters -/

theorem isBlankChar_ne_semicolon (c : Char) (h : isBlankChar c = true) : (c != ';') = true := by
  have hne : c ≠ ';' := by
    rintro rfl
    exact absurd h (by decide)
  simpa using hne

/-- What is left without parameters stands before the first semicolon, whatever stands behind it. -/
theorem stripParameters_eq (s : String) :
    stripParameters s = trim (String.ofList (s.toList.takeWhile (· != ';'))) := by
  unfold stripParameters trim
  simp only [String.toList_ofList]
  rw [trimChars_takeWhile isBlankChar_ne_semicolon]

theorem stripParameters_parameters (s parameters : String) :
    stripParameters (s ++ ";" ++ parameters) = stripParameters s := by
  have hcut : (s ++ ";" ++ parameters).toList.takeWhile (· != ';') = s.toList.takeWhile (· != ';') := by
    rw [String.toList_append, String.toList_append, List.append_assoc, List.takeWhile_append]
    split
    · next hall =>
      have hwhole : s.toList.takeWhile (· != ';') = s.toList := (List.takeWhile_prefix _).eq_of_length hall
      rw [hwhole]
      exact List.append_nil _
    · rfl
  rw [stripParameters_eq, stripParameters_eq, hcut]

theorem stripParameters_trim (s : String) : stripParameters (trim s) = stripParameters s := by
  unfold stripParameters
  rw [trim_trim]

theorem semicolon_not_mem_stripParameters (s : String) : ';' ∉ (stripParameters s).toList := by
  intro h
  obtain ⟨l, r, _, _, heq⟩ := exists_blanks (((trim s).toList).takeWhile (· != ';'))
  unfold stripParameters at h
  rw [trim, String.toList_ofList, String.toList_ofList] at h
  have hmem : ';' ∈ ((trim s).toList).takeWhile (· != ';') := by
    rw [heq]
    exact List.mem_append_left r (List.mem_append_right l h)
  have hne := List.mem_takeWhile_imp hmem
  exact absurd hne (by decide)

/-! ## The plain form -/

theorem eq_of_parts? {s type subtype : List Char} (h : parts? s = some (type, subtype)) :
    s = type ++ '/' :: subtype := by
  unfold parts? at h
  split at h
  · next rest hrest =>
    dsimp only at h
    split at h
    · cases h
    · cases h
      rw [← hrest, List.takeWhile_append_dropWhile]
  · cases h

/-- The plain form has lost the parameters and the capitals, and nothing else. -/
theorem normalize_eq (s : String) : normalize s = lowerCase (stripParameters s) := by
  unfold normalize
  dsimp only
  split
  · next type subtype hparts =>
    rw [← eq_of_parts? hparts, String.ofList_toList]
  · rfl

theorem normalize_trim (s : String) : normalize (trim s) = normalize s := by
  rw [normalize_eq, normalize_eq, stripParameters_trim]

/-- Parameters behind a media type do not matter, and neither does what follows its first semicolon anyway. -/
theorem normalize_parameters (s parameters : String) : normalize (s ++ ";" ++ parameters) = normalize s := by
  rw [normalize_eq, normalize_eq, stripParameters_parameters]

/-- Blanks around a media type do not matter. -/
theorem normalize_between {l r : String} (hl : isBlank l = true) (hr : isBlank r = true) (s : String) :
    normalize (l ++ s ++ r) = normalize s := by
  rw [← normalize_trim (l ++ s ++ r), trim_between hl hr, normalize_trim]

theorem sameLetters_stripParameters {s s' : String} (h : SameLetters s s') :
    SameLetters (stripParameters s) (stripParameters s') := by
  have hcut : (· != ';') ∘ Char.toLower = (· != ';') := funext ne_semicolon_toLower
  have hplain : ∀ s : String, (MediaType.stripParameters s).toList.map Char.toLower =
      trimChars ((s.toList.map Char.toLower).takeWhile (· != ';')) := by
    intro s
    rw [stripParameters_eq, trim, String.toList_ofList, String.toList_ofList, ← trimChars_map isBlankChar_toLower,
      List.takeWhile_map, hcut]
  unfold SameLetters at h ⊢
  rw [hplain, hplain, h]

/-- The case of basic Latin letters does not matter. -/
theorem normalize_sameLetters {s s' : String} (h : SameLetters s s') : normalize s = normalize s' := by
  rw [normalize_eq, normalize_eq, lowerCase_eq_of_sameLetters (sameLetters_stripParameters h)]

/-- The plain form has no semicolon. -/
theorem semicolon_not_mem_normalize (s : String) : ';' ∉ (normalize s).toList := by
  rw [normalize_eq]
  exact fun h => semicolon_not_mem_stripParameters s (mem_of_mem_lowerCase (by decide) h)

theorem noBlankEnds_normalize (s : String) : NoBlankEnds (normalize s).toList := by
  rw [normalize_eq, stripParameters_eq]
  unfold lowerCase trim
  simp only [String.toList_ofList]
  exact (noBlankEnds_trimChars _).lowerChars

/-- There is nothing to cut off a text without semicolons and without blanks at its ends. -/
theorem stripParameters_eq_self {s : String} (hsemicolon : ';' ∉ s.toList) (hends : NoBlankEnds s.toList) :
    stripParameters s = s := by
  have hwhole : s.toList.takeWhile (· != ';') = s.toList := by
    refine List.takeWhile_eq_self_iff.mpr fun c hc => ?_
    have hne : c ≠ ';' := by
      rintro rfl
      exact hsemicolon hc
    simpa using hne
  rw [stripParameters_eq, hwhole, String.ofList_toList, trim, hends.trimChars_eq, String.ofList_toList]

/-- A plain form has no other plain form. -/
theorem normalize_normalize (s : String) : normalize (normalize s) = normalize s := by
  have hplain := stripParameters_eq_self (semicolon_not_mem_normalize s) (noBlankEnds_normalize s)
  rw [normalize_eq (normalize s), hplain, normalize_eq, lowerCase_lowerCase]

/-- The plain form is the text without parameters in lower case, whether or not it has a type and a subtype; it does not
    depend on parameters, has no semicolon and no blanks at its ends, and is its own plain form. -/
theorem normalize_laws (s parameters : String) :
    normalize s = lowerCase (stripParameters s) ∧ normalize (s ++ ";" ++ parameters) = normalize s ∧
      ';' ∉ (normalize s).toList ∧
      (∀ c, (normalize s).toList.head? = some c ∨ (normalize s).toList.getLast? = some c → isBlankChar c = false) ∧
      normalize (normalize s) = normalize s := by
  have hends := noBlankEnds_normalize s
  refine ⟨normalize_eq s, normalize_parameters s parameters, semicolon_not_mem_normalize s, ?_, normalize_normalize s⟩
  rintro c (hfirst | hlast)
  · exact hends.first c hfirst
  · exact hends.last c hlast

end GraphLift.MediaType
