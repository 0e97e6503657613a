import GraphLift.Proofs.Number.Notation
import GraphLift.Proofs.Text.LetterCase
import GraphLift.Template.Flag
import Mathlib.Data.List.Basic

/-! # What turns a flag on

    A flag is turned on by the truth value, or by a text that says so: the word `true` in any case of its letters, with
    blanks around it and perhaps one semicolon behind.

    * **Framed words** (`withoutSemicolon_eq_iff`): a word is what is left without blanks and semicolon if it stands
      between blanks and has no more than one semicolon behind, and only then.
    * **Texts** (`lowerChars_withoutSemicolon`): what becomes the word in lower case differs from it in the case of its
      letters only.
    * **Other values** (`Json.not_saysTrue_label`): no number, array or object reads as such a text, so that
      `Json.toFlag_iff` names all that turns a flag on.
-/

namespace GraphLift

open Text

/-! ## Words between blanks -/

/-- A word between blanks, and perhaps one semicolon and more blanks behind it. -/
inductive Framed (word : List Char) : List Char → Prop where
  | plain {l r : List Char} (left : AllBlank l) (right : AllBlank r) : Framed word (l ++ word ++ r)
  | closed {l r b : List Char} (left : AllBlank l) (right : AllBlank r) (behind : AllBlank b) :
    Framed word (l ++ word ++ r ++ ';' :: b)

section Framed

variable {word cs : List Char}

/-- A semicolon keeps the blanks in front of it from being taken off. -/
theorem trimChars_closed (hne : word ≠ []) (hends : NoBlankEnds word) (r : List Char) :
    trimChars (word ++ r ++ [';']) = word ++ r ++ [';'] := by
  apply NoBlankEnds.trimChars_eq
  constructor
  · intro c hc
    apply hends.first
    rw [List.append_assoc, List.head?_append_of_ne_nil _ hne] at hc
    exact hc
  · intro c hc
    rw [List.getLast?_concat] at hc
    cases hc
    decide

theorem framed_of_withoutSemicolon (h : withoutSemicolon cs = word) : Framed word cs := by
  obtain ⟨l, r, hl, hr, hcs⟩ := exists_blanks cs
  unfold withoutSemicolon at h
  dsimp only at h
  by_cases hsemicolon : (trimChars cs).getLast? = some ';'
  · -- what stands before the semicolon is trimmed once more, so that there may be blanks in front of it
    rw [if_pos hsemicolon] at h
    obtain ⟨l', r', hl', hr', hinner⟩ := exists_blanks (trimChars cs).dropLast
    have hclosed : cs = (l ++ l') ++ word ++ r' ++ ';' :: r := by
      rw [hcs, ← List.dropLast_append_getLast? ';' hsemicolon, hinner, h]
      simp
    rw [hclosed]
    exact .closed (List.forall_mem_append.mpr ⟨hl, hl'⟩) hr' hr
  · rw [if_neg hsemicolon] at h
    rw [hcs, h]
    exact .plain hl hr

/-- What is left without blanks and semicolon is a word just if the text is the word in a frame. -/
theorem withoutSemicolon_eq_iff (hne : word ≠ []) (hends : NoBlankEnds word) (hlast : word.getLast? ≠ some ';') :
    withoutSemicolon cs = word ↔ Framed word cs := by
  refine ⟨framed_of_withoutSemicolon, fun h => ?_⟩
  have htrim : ∀ {l r : List Char}, AllBlank l → AllBlank r → trimChars (l ++ word ++ r) = word := by
    intro l r hl hr
    rw [trimChars_between hl hr, hends.trimChars_eq]
  unfold withoutSemicolon
  cases h with
  | plain hl hr =>
    rw [htrim hl hr]
    exact if_neg hlast
  | @closed l r b hl hr hb =>
    have hnone : AllBlank [] := by simp [AllBlank]
    have houter : trimChars (l ++ word ++ r ++ ';' :: b) = word ++ r ++ [';'] := by
      have hsplit : l ++ word ++ r ++ ';' :: b = l ++ (word ++ r ++ [';']) ++ b := by simp
      rw [hsplit, trimChars_between hl hb, trimChars_closed hne hends]
    rw [houter]
    dsimp only
    rw [if_pos List.getLast?_concat, List.dropLast_concat]
    exact htrim hnone hr

end Framed

/-! ## Texts that say true -/

/-- The word `true` in any case of its letters. Characters other than the basic Latin letters stay what they are, so that
    none of them can stand for one of the four. -/
def IsTrueWord (word : List Char) : Prop :=
  word.map Char.toLower = "true".toList

/-- A text that turns a flag on. -/
def SaysTrue (cs : List Char) : Prop :=
  ∃ word, IsTrueWord word ∧ Framed word cs

namespace IsTrueWord

variable {word : List Char} {c : Char}

theorem mem (h : IsTrueWord word) (hc : c ∈ word) : c.toLower ∈ "true".toList := by
  rw [← h]
  exact List.mem_map_of_mem hc

theorem ne_nil (h : IsTrueWord word) : word ≠ [] := by
  rintro rfl
  simp [IsTrueWord] at h

theorem isBlankChar_eq (h : IsTrueWord word) (hc : c ∈ word) : isBlankChar c = false := by
  have hletters : ("true".toList.all fun d => !isBlankChar d) = true := by decide
  have hletter := List.all_eq_true.mp hletters _ (h.mem hc)
  rw [← isBlankChar_toLower]
  simpa using hletter

theorem noBlankEnds (h : IsTrueWord word) : NoBlankEnds word :=
  ⟨fun _ hc => h.isBlankChar_eq (List.mem_of_mem_head? hc), fun _ hc => h.isBlankChar_eq (List.mem_of_getLast? hc)⟩

theorem getLast?_ne (h : IsTrueWord word) : word.getLast? ≠ some ';' := by
  intro hlast
  have hmem := h.mem (List.mem_of_getLast? hlast)
  exact absurd hmem (by decide)

end IsTrueWord

/-- What is left is the word in lower case just if the text says so: no other characters become these letters. -/
theorem lowerChars_withoutSemicolon {cs : List Char} :
    lowerChars [] (withoutSemicolon cs) = "true".toList ↔ SaysTrue cs := by
  rw [lowerChars_eq_iff (by decide)]
  constructor
  · intro h
    exact ⟨withoutSemicolon cs, h, framed_of_withoutSemicolon rfl⟩
  · rintro ⟨word, hword, hframed⟩
    rw [(withoutSemicolon_eq_iff hword.ne_nil hword.noBlankEnds hword.getLast?_ne).mpr hframed]
    exact hword

/-! ## Values that are no texts -/

theorem eq_of_toLower_eq_t {c : Char} (h : c.toLower = 't') : c = 't' ∨ c = 'T' := by
  have hsame := eq_of_toLower (fun c => decide (c = 't' ∨ c = 'T')) (by decide) c
  rw [h] at hsame
  exact of_decide_eq_true hsame.symm

namespace SaysTrue

variable {cs : List Char}

/-- The first letter of the word is there. -/
theorem mem_first (h : SaysTrue cs) : 't' ∈ cs ∨ 'T' ∈ cs := by
  obtain ⟨word, hword, hframed⟩ := h
  have hfirst : 't' ∈ word.map Char.toLower := by
    rw [hword]
    decide
  obtain ⟨c, hc, hlower⟩ := List.mem_map.mp hfirst
  have hmem : c ∈ cs := by
    cases hframed <;> simp [hc]
  rcases eq_of_toLower_eq_t hlower with rfl | rfl
  · exact .inl hmem
  · exact .inr hmem

/-- There are no other characters than the letters of the word, blanks and a semicolon. -/
theorem of_mem (h : SaysTrue cs) {c : Char} (hc : c ∈ cs) :
    c.toLower ∈ "true".toList ∨ isBlankChar c = true ∨ c = ';' := by
  obtain ⟨word, hword, hframed⟩ := h
  cases hframed with
  | plain hl hr =>
    simp only [List.mem_append] at hc
    rcases hc with (hc | hc) | hc
    · exact .inr (.inl (hl c hc))
    · exact .inl (hword.mem hc)
    · exact .inr (.inl (hr c hc))
  | closed hl hr hb =>
    simp only [List.mem_append, List.mem_cons] at hc
    rcases hc with ((hc | hc) | hc) | hc | hc
    · exact .inr (.inl (hl c hc))
    · exact .inl (hword.mem hc)
    · exact .inr (.inl (hr c hc))
    · exact .inr (.inr hc)
    · exact .inr (.inl (hb c hc))

end SaysTrue

/-- A number lacks the first letter of the word. -/
theorem not_saysTrue_number {cs : List Char} (h : ∀ c ∈ cs, isNumeralChar c = true ∨ c ∈ ("inf" ++ "nan").toList) :
    ¬SaysTrue cs := by
  intro htrue
  rcases htrue.mem_first with ht | ht
  · exact absurd (h _ ht) (by decide)
  · exact absurd (h _ ht) (by decide)

/-- Behind a bracket or a brace nothing says true. -/
theorem not_saysTrue_container {c : Char} (h : c = '[' ∨ c = '\x7b') (cs : List Char) : ¬SaysTrue (c :: cs) := by
  intro htrue
  have hc := htrue.of_mem List.mem_cons_self
  rcases h with rfl | rfl
  · exact absurd hc (by decide)
  · exact absurd hc (by decide)

namespace Json

/-- What is neither null nor a truth value is judged by how it reads. -/
theorem toFlag_eq_true_iff (default : Bool) {v : Json} (hnull : v ≠ .null) (hbool : ∀ b, v ≠ .bool b) :
    v.toFlag default = true ↔ SaysTrue v.label.toList := by
  rw [← lowerChars_withoutSemicolon]
  cases v with
  | null => exact absurd rfl hnull
  | bool b => exact absurd rfl (hbool b)
  | _ => exact decide_eq_true_iff

/-- No number, array or object reads as a text that turns a flag on. -/
theorem not_saysTrue_label {v : Json} (hnull : v ≠ .null) (hbool : ∀ b, v ≠ .bool b) (htext : ∀ s, v ≠ .text s) :
    ¬SaysTrue v.label.toList := by
  have hlabel : v.label.toList = displayChars v := by
    rw [label, display, String.toList_ofList]
    exact htext
  rw [hlabel]
  cases v with
  | null => exact absurd rfl hnull
  | bool b => exact absurd rfl (hbool b)
  | text s => exact absurd rfl (htext s)
  | int n =>
    rw [displayChars]
    exact not_saysTrue_number fun c hc => .inl (isNumeral_int n c hc)
  | real x =>
    rw [displayChars]
    exact not_saysTrue_number fun c hc => x.isNumeralChar_of_mem_spelled displaySpelling hc
  | array items =>
    rw [displayChars]
    exact not_saysTrue_container (.inl rfl) _
  | object members =>
    rw [displayChars]
    exact not_saysTrue_container (.inr rfl) _

/-- A flag is on if nothing is written and it is on by default, if it is written as the truth value, or if it is written
    as a text that says so: a number, an array or an object never turns it on. -/
theorem toFlag_iff (default : Bool) (v : Json) :
    v.toFlag default = true ↔
      (v = .null ∧ default = true) ∨ v = .bool true ∨ ∃ s, v = .text s ∧ SaysTrue s.toList := by
  by_cases hnull : v = .null
  · rw [hnull]
    simp [toFlag]
  · by_cases hbool : ∃ b, v = .bool b
    · obtain ⟨b, rfl⟩ := hbool
      simp [toFlag]
    · have hother : ∀ b, v ≠ .bool b := fun b hb => hbool ⟨b, hb⟩
      rw [toFlag_eq_true_iff default hnull hother]
      by_cases htext : ∃ s, v = .text s
      · obtain ⟨s, rfl⟩ := htext
        simp [label]
      · have hnone : ∀ s, v ≠ .text s := fun s hs => htext ⟨s, hs⟩
        simp [hnull, hother, hnone, not_saysTrue_label hnull hother hnone]

/-- One semicolon is taken off, and no second one. -/
example : (Json.text " True ; ").toFlag false = true ∧ (Json.text "true;;").toFlag true = false := by decide +kernel

end Json

end GraphLift
