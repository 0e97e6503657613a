import GraphLift.Text.Blank
import Mathlib.Data.List.TakeWhile

/-! # What trimming keeps

    Trimming takes a stretch of blanks off either end of a text and leaves what stands between them.

    * **Blanks around a text** (`trimChars_between`) do not matter to what trimming keeps, and every text is what is kept
      of it between blanks (`exists_blanks`). All else follows from these two.
    * **A text without blanks at its ends** (`NoBlankEnds`) is what trimming leaves, and nothing is taken off such a text.
    * **Cutting** (`trimChars_takeWhile`) at a character that is no blank may be done before trimming or after it.
-/

namespace GraphLift.Text

/-- Nothing but blanks. -/
def AllBlank (cs : List Char) : Prop :=
  ∀ c ∈ cs, isBlankChar c = true

theorem isBlank_iff {s : String} : isBlank s = true ↔ AllBlank s.toList :=
  List.all_eq_true

/-! ## Blanks at the end -/

theorem trimEndChars_of_allBlank {cs : List Char} (h : AllBlank cs) : trimEndChars cs = [] := by
  induction cs with
  | nil => rfl
  | cons c cs ih =>
    obtain ⟨hc, hcs⟩ := List.forall_mem_cons.mp h
    rw [trimEndChars, ih hcs]
    exact if_pos hc

/-- Blanks behind a text are taken off. -/
theorem trimEndChars_append {blanks : List Char} (h : AllBlank blanks) (cs : List Char) :
    trimEndChars (cs ++ blanks) = trimEndChars cs := by
  induction cs with
  | nil => exact trimEndChars_of_allBlank h
  | cons c cs ih => rw [List.cons_append, trimEndChars, trimEndChars, ih]

/-- At the end of a text nothing is removed before a character that is not blank. -/
theorem trimEndChars_cons {c : Char} (h : isBlankChar c = false) (cs : List Char) :
    trimEndChars (c :: cs) = c :: trimEndChars cs := by
  rw [trimEndChars]
  cases trimEndChars cs with
  | nil =>
    rw [h]
    rfl
  | cons d ds => rfl

/-- No blank is left at the end. -/
theorem isBlankChar_of_getLast?_trimEndChars {cs : List Char} {c : Char} (h : (trimEndChars cs).getLast? = some c) :
    isBlankChar c = false := by
  induction cs with
  | nil => cases h
  | cons d ds ih =>
    rw [trimEndChars] at h
    split at h
    · split at h
      · cases h
      · next hd =>
        have hc : d = c := by simpa using h
        rw [← hc]
        exact eq_false_of_ne_true hd
    · next hne =>
      rw [List.getLast?_cons_of_ne_nil hne] at h
      exact ih h

/-- Only blanks are taken off the end. -/
theorem exists_trimEndChars (cs : List Char) : ∃ blanks, AllBlank blanks ∧ cs = trimEndChars cs ++ blanks := by
  induction cs with
  | nil => exact ⟨[], fun c hc => absurd hc List.not_mem_nil, rfl⟩
  | cons c cs ih =>
    obtain ⟨blanks, hblanks, heq⟩ := ih
    cases hrest : trimEndChars cs with
    | nil =>
      rw [hrest, List.nil_append] at heq
      subst heq
      by_cases hc : isBlankChar c = true
      · refine ⟨c :: cs, List.forall_mem_cons.mpr ⟨hc, hblanks⟩, ?_⟩
        rw [trimEndChars, hrest]
        simp [hc]
      · refine ⟨cs, hblanks, ?_⟩
        rw [trimEndChars, hrest]
        simp [hc]
    | cons d ds =>
      refine ⟨blanks, hblanks, ?_⟩
      rw [trimEndChars, hrest]
      rw [hrest] at heq
      exact congrArg (c :: ·) heq

/-! ## Blanks at both ends -/

/-- Blanks around a text are taken off. -/
theorem trimChars_between {l r : List Char} (hl : AllBlank l) (hr : AllBlank r) (cs : List Char) :
    trimChars (l ++ cs ++ r) = trimChars cs := by
  unfold trimChars
  rw [List.append_assoc, List.dropWhile_append_of_pos hl, List.dropWhile_append]
  split
  · next hempty =>
    -- the text is made of blanks only, so that those behind it are taken off at the front
    rw [List.isEmpty_iff.mp hempty, List.dropWhile_eq_nil_iff.mpr hr]
  · exact trimEndChars_append hr _

/-- Only blanks are taken off. -/
theorem exists_blanks (cs : List Char) :
    ∃ l r, AllBlank l ∧ AllBlank r ∧ cs = l ++ trimChars cs ++ r := by
  obtain ⟨r, hr, heq⟩ := exists_trimEndChars (cs.dropWhile isBlankChar)
  refine ⟨cs.takeWhile isBlankChar, r, fun c hc => List.mem_takeWhile_imp hc, hr, ?_⟩
  rw [List.append_assoc]
  unfold trimChars
  rw [← heq, List.takeWhile_append_dropWhile]

@[simp] theorem trimChars_trimChars (cs : List Char) : trimChars (trimChars cs) = trimChars cs := by
  obtain ⟨l, r, hl, hr, heq⟩ := exists_blanks cs
  rw [← trimChars_between hl hr (trimChars cs), ← heq]

@[simp] theorem trim_trim (s : String) : trim (trim s) = trim s := by
  unfold trim
  rw [String.toList_ofList, trimChars_trimChars]

/-- A text keeps what it had between blanks. -/
theorem trim_between {l r : String} (hl : isBlank l = true) (hr : isBlank r = true) (s : String) :
    trim (l ++ s ++ r) = trim s := by
  unfold trim
  rw [String.toList_append, String.toList_append, trimChars_between (isBlank_iff.mp hl) (isBlank_iff.mp hr)]

theorem mem_of_mem_trimChars {cs : List Char} {c : Char} (h : c ∈ trimChars cs) : c ∈ cs := by
  obtain ⟨l, r, _, _, heq⟩ := exists_blanks cs
  rw [heq]
  exact List.mem_append_left r (List.mem_append_right l h)

theorem mem_of_mem_trim {s : String} {c : Char} (h : c ∈ (trim s).toList) : c ∈ s.toList := by
  unfold trim at h
  rw [String.toList_ofList] at h
  exact mem_of_mem_trimChars h

/-! ## Texts without blanks at the ends -/

/-- Neither the first character nor the last one is a blank. -/
structure NoBlankEnds (cs : List Char) : Prop where
  first : ∀ c, cs.head? = some c → isBlankChar c = false
  last : ∀ c, cs.getLast? = some c → isBlankChar c = false

/-- Trimming leaves no blanks at the ends. -/
theorem noBlankEnds_trimChars (cs : List Char) : NoBlankEnds (trimChars cs) := by
  refine ⟨fun c hc => ?_, fun c hc => isBlankChar_of_getLast?_trimEndChars hc⟩
  unfold trimChars at hc
  cases hrest : cs.dropWhile isBlankChar with
  | nil =>
    rw [hrest] at hc
    cases hc
  | cons d ds =>
    -- the first character that is not dropped is no blank, so that it is not taken off at the end either
    have hd : isBlankChar d = false := by
      have hfirst := List.head?_dropWhile_not isBlankChar cs
      rw [hrest] at hfirst
      simpa using hfirst
    rw [hrest, trimEndChars_cons hd] at hc
    have heq : d = c := by simpa using hc
    rw [← heq]
    exact hd

/-- Nothing is taken off a text without blanks at the ends. -/
theorem NoBlankEnds.trimChars_eq {cs : List Char} (h : NoBlankEnds cs) : trimChars cs = cs := by
  have hfront : cs.dropWhile isBlankChar = cs := by
    cases cs with
    | nil => rfl
    | cons c cs => exact List.dropWhile_cons_of_neg (by simp [h.first c rfl])
  obtain ⟨blanks, hblanks, heq⟩ := exists_trimEndChars cs
  have hnone : blanks = [] := by
    by_contra hne
    have hlast : cs.getLast? = some (blanks.getLast hne) := by
      rw [heq, List.getLast?_append, List.getLast?_eq_some_getLast hne]
      rfl
    have hblank := hblanks _ (List.getLast_mem hne)
    rw [h.last _ hlast] at hblank
    exact absurd hblank Bool.false_ne_true
  unfold trimChars
  rw [hfront]
  rw [hnone, List.append_nil] at heq
  exact heq.symm

/-! ## Trimming and other changes -/

/-- A text can be trimmed before or after it is cut at a character that is no blank. -/
theorem trimChars_takeWhile {p : Char → Bool} (hp : ∀ c, isBlankChar c = true → p c = true) (cs : List Char) :
    trimChars ((trimChars cs).takeWhile p) = trimChars (cs.takeWhile p) := by
  obtain ⟨l, r, hl, hr, heq⟩ := exists_blanks cs
  have hcut : ∃ r', AllBlank r' ∧ cs.takeWhile p = l ++ (trimChars cs).takeWhile p ++ r' := by
    have hleft : cs.takeWhile p = l ++ (trimChars cs ++ r).takeWhile p := by
      refine (congrArg (List.takeWhile p) heq).trans ?_
      rw [List.append_assoc, List.takeWhile_append_of_pos fun c hc => hp c (hl c hc)]
    rw [hleft, List.takeWhile_append]
    split
    · next hall =>
      -- nothing is cut off, so that the blanks behind the text stay
      have hwhole : (trimChars cs).takeWhile p = trimChars cs := (List.takeWhile_prefix p).eq_of_length hall
      rw [List.takeWhile_eq_self_iff.mpr fun c hc => hp c (hr c hc), hwhole]
      exact ⟨r, hr, (List.append_assoc ..).symm⟩
    · exact ⟨[], fun c hc => absurd hc List.not_mem_nil, (List.append_nil _).symm⟩
  obtain ⟨r', hr', hcs⟩ := hcut
  rw [hcs, trimChars_between hl hr']

/-- Trimming goes by which characters are blank, so that a change of characters that keeps blanks apart can be made
    before or after it. -/
theorem trimChars_map {g : Char → Char} (hg : ∀ c, isBlankChar (g c) = isBlankChar c) (cs : List Char) :
    trimChars (cs.map g) = (trimChars cs).map g := by
  have hend : ∀ cs : List Char, trimEndChars (cs.map g) = (trimEndChars cs).map g := by
    intro cs
    induction cs with
    | nil => rfl
    | cons c cs ih =>
      rw [List.map_cons, trimEndChars, trimEndChars, ih]
      cases trimEndChars cs with
      | nil =>
        show (if isBlankChar (g c) = true then [] else [g c]) = (if isBlankChar c = true then [] else [c]).map g
        rw [hg c]
        split <;> rfl
      | cons d ds => rfl
  have hblank : isBlankChar ∘ g = isBlankChar := funext hg
  unfold trimChars
  rw [List.dropWhile_map, hblank, hend]

end GraphLift.Text
