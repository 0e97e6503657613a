import GraphLift.Proofs.Text.Blank
import GraphLift.Text.LetterCase

/-! # Lower case and basic Latin letters

    The lower-case form of a text does not depend on whether its basic Latin letters are capitals. That is not true letter
    by letter only: whether a capital sigma is final depends on the letters around it.

    * **What a capital has in common with its small letter** (`eq_of_toLower`) is looked up in the tables for the 26
      letters.
    * **Texts** (`lowerCase_eq_of_sameLetters`) that differ in the case of such letters only have the same lower-case form.
    * **Lower-case forms** of single characters are small letters (`lowersTo_of_mem_lowerAt`): the spans of the table are compared in
      pairs, so that a lower-case form has no other lower-case form (`lowerCase_lowerCase`).
    * **Signs and blanks** (`mem_of_mem_lowerCase`) are no lower-case forms of anything else, so that a text has them in
      lower case only where it had them before.
    * **Words of plain letters** (`lowerChars_eq_iff`) are lower-case forms of their own letters in either case, and of no
      other characters.
-/

namespace GraphLift.Text

/-! ## Capitals and small letters -/

/-- The texts differ at most in the case of basic Latin letters. -/
def SameLetters (s s' : String) : Prop :=
  s.toList.map Char.toLower = s'.toList.map Char.toLower

/-- A character is given by how far it is behind another one. -/
theorem exists_eq_ofNat {c : Char} {first : Nat} (h : first ≤ c.toNat) :
    ∃ n, c.toNat = first + n ∧ c = Char.ofNat (first + n) := by
  obtain ⟨n, hn⟩ := Nat.exists_eq_add_of_le h
  refine ⟨n, hn, ?_⟩
  rw [← hn, Char.ofNat_toNat]

theorem toLower_capital : ∀ n < 26, (Char.ofNat (65 + n)).toLower = Char.ofNat (97 + n) := by decide

/-- What is the same for every capital and its small letter is the same for all characters before and after they are
    made small. -/
theorem eq_of_toLower {α : Type} (g : Char → α)
    (h : ∀ n < 26, g (Char.ofNat (97 + n)) = g (Char.ofNat (65 + n))) (c : Char) : g c.toLower = g c := by
  by_cases hc : 'A' ≤ c ∧ c ≤ 'Z'
  · have hlow : 65 ≤ c.toNat := hc.1
    have hhigh : c.toNat ≤ 90 := hc.2
    obtain ⟨n, hn, hcapital⟩ := exists_eq_ofNat hlow
    have hlt : n < 26 := by omega
    rw [hcapital, toLower_capital n hlt, h n hlt]
  · have hsame : c.toLower = c := dif_neg hc
    rw [hsame]

theorem isBlankChar_toLower (c : Char) : isBlankChar c.toLower = isBlankChar c :=
  eq_of_toLower isBlankChar (by decide) c

theorem ne_semicolon_toLower (c : Char) : (c.toLower != ';') = (c != ';') :=
  eq_of_toLower (· != ';') (by decide) c

theorem eq_sigma_toLower (c : Char) : (c.toLower == '\u03A3') = (c == '\u03A3') :=
  eq_of_toLower (· == '\u03A3') (by decide) c

theorem caseIgnorable_toLower (c : Char) : caseIgnorableRanges.contains c.toLower = caseIgnorableRanges.contains c :=
  eq_of_toLower caseIgnorableRanges.contains (by decide +kernel) c

theorem cased_toLower (c : Char) : casedRanges.contains c.toLower = casedRanges.contains c :=
  eq_of_toLower casedRanges.contains (by decide +kernel) c

theorem lowerChar_toLower (c : Char) : lowerChar c.toLower = lowerChar c :=
  eq_of_toLower lowerChar (by decide +kernel) c

/-! ## Texts -/

theorem meetsCased_map (cs : List Char) : meetsCased (cs.map Char.toLower) = meetsCased cs := by
  have hignorable : caseIgnorableRanges.contains ∘ Char.toLower = caseIgnorableRanges.contains :=
    funext caseIgnorable_toLower
  unfold meetsCased
  rw [List.dropWhile_map, hignorable]
  cases cs.dropWhile caseIgnorableRanges.contains with
  | nil => rfl
  | cons c rest => exact cased_toLower c

/-- What stands before a letter matters to its lower-case form, but not in which case it is. -/
theorem lowerChars_map (before cs : List Char) :
    lowerChars (before.map Char.toLower) (cs.map Char.toLower) = lowerChars before cs := by
  induction cs generalizing before with
  | nil => rfl
  | cons c rest ih =>
    have hrest := ih (c :: before)
    rw [List.map_cons] at hrest ⊢
    have hsigma : c.toLower = '\u03A3' ↔ c = '\u03A3' := by
      rw [← beq_iff_eq, eq_sigma_toLower, beq_iff_eq]
    have hfinal : isFinalSigma (before.map Char.toLower) (rest.map Char.toLower) = isFinalSigma before rest := by
      unfold isFinalSigma
      rw [meetsCased_map, meetsCased_map]
    simp only [lowerChars, hsigma, hfinal, hrest, lowerChar_toLower]

/-- The case of basic Latin letters does not matter to the lower-case form of a text. -/
theorem lowerCase_eq_of_sameLetters {s s' : String} (h : SameLetters s s') : lowerCase s = lowerCase s' := by
  unfold lowerCase
  rw [← lowerChars_map [] s.toList, ← lowerChars_map [] s'.toList, h]

/-! ## Lower-case forms of single characters -/

namespace CaseSpan

/-- No lower-case form of the first span is a member of the second one: they lie apart, or each of the two leaves out
    every other character and never meets the other. -/
def avoids (s t : CaseSpan) : Bool :=
  -- all pairs of spans are checked, so that the comparisons are those on numbers that are evaluated at once
  Nat.blt (s.lower s.last) t.first || Nat.blt t.last s.target ||
    (Nat.beq t.step 2 && (Nat.beq s.step 2 || Nat.beq s.first s.last) && Nat.beq ((s.target + t.first) % 2) 1)

/-- No lower-case form of the span lies in the range. -/
def avoidsRange (s : CaseSpan) (r : Nat × Nat) : Bool :=
  s.lower s.last < r.1 || r.2 < s.target

variable {s t : CaseSpan} {n : Nat}

theorem le_last (h : s.contains n = true) : s.first ≤ n ∧ n ≤ s.last := by
  simp only [contains, Bool.and_eq_true, decide_eq_true_eq] at h
  exact h.1

theorem contains_lower_of_avoids (h : s.avoids t = true) (hn : s.contains n = true) :
    t.contains (s.lower n) = false := by
  obtain ⟨hfirst, hlast⟩ := le_last hn
  by_contra hcontains
  have ht := eq_true_of_ne_false hcontains
  obtain ⟨hfirst', hlast'⟩ := le_last ht
  simp only [contains, Bool.and_eq_true, beq_iff_eq] at hn ht
  simp only [avoids, Bool.or_eq_true, Bool.and_eq_true, Nat.blt_eq, Nat.beq_eq] at h
  unfold lower at h hfirst' hlast' ht
  obtain (hbefore | hbehind) | ⟨⟨htwo, hstep⟩, hparity⟩ := h
  · omega
  · omega
  · -- both go in steps of two, from starts of different parity
    have hmember := ht.2
    rw [htwo] at hmember
    rcases hstep with hstep | hsingle
    · have hn' := hn.2
      rw [hstep] at hn'
      omega
    · omega

theorem lower_of_avoidsRange {r : Nat × Nat} (h : s.avoidsRange r = true) (hn : s.contains n = true) :
    ¬(r.1 ≤ s.lower n ∧ s.lower n ≤ r.2) := by
  obtain ⟨hfirst, hlast⟩ := le_last hn
  simp only [avoidsRange, Bool.or_eq_true, decide_eq_true_eq] at h
  unfold lower at h ⊢
  omega

end CaseSpan

/-- Where there are no small letters: up to the last capital of the basic Latin letters and the signs behind it, behind
    the small ones, at the blanks further on, at the two capitals that have rules of their own, and where there are no
    characters at all. -/
def unusedRanges : CharRanges := ⟨[
  (0, 0x60), (0x7B, 0xA0), (0x130, 0x130), (0x3A3, 0x3A3), (0x1680, 0x1680), (0x2000, 0x205F), (0x3000, 0x3000),
  (0xD800, 0xDFFF)]⟩

theorem caseSpans_avoid : (caseSpans.all fun s => caseSpans.all s.avoids) = true := by decide +kernel

theorem caseSpans_avoid_unused : ∀ s ∈ caseSpans, ∀ r ∈ unusedRanges.ranges, s.avoidsRange r = true := by decide +kernel

theorem lower_last_lt : ∀ s ∈ caseSpans, s.lower s.last < 0x110000 := by decide +kernel

theorem toNat_ofNat {n : Nat} (h : n.isValidChar) : (Char.ofNat n).toNat = n := by
  unfold Char.ofNat
  rw [dif_pos h]
  rfl

/-- The code point of a lower-case form that is taken from a span. -/
theorem toNat_lower {s : CaseSpan} (hs : s ∈ caseSpans) {n : Nat} (hn : s.contains n = true) :
    (Char.ofNat (s.lower n)).toNat = s.lower n := by
  apply toNat_ofNat
  have hsurrogates := CaseSpan.lower_of_avoidsRange (caseSpans_avoid_unused s hs (0xD800, 0xDFFF) (by decide)) hn
  have hlast := lower_last_lt s hs
  obtain ⟨_, hle⟩ := CaseSpan.le_last hn
  have hbound : s.lower n < 0x110000 := by
    unfold CaseSpan.lower at hlast ⊢
    omega
  unfold Nat.isValidChar
  omega

/-- The character is its own lower-case form, wherever it stands. -/
structure IsSmall (c : Char) : Prop where
  ne_sigma : c ≠ '\u03A3'
  lowerChar_eq : lowerChar c = [c]

theorem lowerChar_of_span {c : Char} {s : CaseSpan} (hc : c ≠ '\u0130')
    (h : caseSpans.find? (·.contains c.toNat) = some s) : lowerChar c = [Char.ofNat (s.lower c.toNat)] := by
  unfold lowerChar
  rw [if_neg hc, h]

theorem lowerChar_of_none {c : Char} (hc : c ≠ '\u0130') (h : caseSpans.find? (·.contains c.toNat) = none) :
    lowerChar c = [c] := by
  unfold lowerChar
  rw [if_neg hc, h]

/-- A character has its lower-case form by the rule for the capital I with a dot, from a span, or it is its own. -/
theorem lowerChar_cases (c : Char) :
    lowerChar c = ['i', '\u0307'] ∨
      (∃ s ∈ caseSpans, s.contains c.toNat = true ∧ lowerChar c = [Char.ofNat (s.lower c.toNat)]) ∨
      lowerChar c = [c] := by
  by_cases hdotted : c = '\u0130'
  · exact .inl (if_pos hdotted)
  · cases hspan : caseSpans.find? (·.contains c.toNat) with
    | some s =>
      have hcontains : s.contains c.toNat = true := by simpa using List.find?_some hspan
      exact .inr (.inl ⟨s, List.mem_of_find?_eq_some hspan, hcontains, lowerChar_of_span hdotted hspan⟩)
    | none => exact .inr (.inr (lowerChar_of_none hdotted hspan))

/-- What a character can become: a small one, and no sign or blank unless it was that sign or blank. -/
structure LowersTo (c d : Char) : Prop where
  small : IsSmall d
  eq_of_unused : unusedRanges.contains d = true → d = c

theorem LowersTo.of_letter {c d : Char} (hsmall : IsSmall d) (hunused : unusedRanges.contains d = false) : LowersTo c d := by
  refine ⟨hsmall, fun h => ?_⟩
  rw [hunused] at h
  cases h

/-- A lower-case form that is taken from a span is a small letter. -/
theorem lowersTo_lower {s : CaseSpan} (hs : s ∈ caseSpans) {n : Nat} (hn : s.contains n = true) (c : Char) :
    LowersTo c (Char.ofNat (s.lower n)) := by
  have hcode := toNat_lower hs hn
  have hunused : unusedRanges.contains (Char.ofNat (s.lower n)) = false := by
    refine List.any_eq_false.mpr fun r hr => ?_
    have havoid := CaseSpan.lower_of_avoidsRange (caseSpans_avoid_unused s hs r hr) hn
    rw [hcode]
    simpa using havoid
  have hne : ∀ c : Char, unusedRanges.contains c = true → Char.ofNat (s.lower n) ≠ c := by
    rintro c hc rfl
    rw [hc] at hunused
    cases hunused
  have hnone : caseSpans.find? (·.contains (Char.ofNat (s.lower n)).toNat) = none := by
    refine List.find?_eq_none.mpr fun t ht => ?_
    have havoid := List.all_eq_true.mp (List.all_eq_true.mp caseSpans_avoid s hs) t ht
    rw [hcode, CaseSpan.contains_lower_of_avoids havoid hn]
    exact Bool.false_ne_true
  exact .of_letter ⟨hne _ (by decide), lowerChar_of_none (hne _ (by decide)) hnone⟩ hunused

/-- The four letters that the rules for the capital sigma and for the capital I with a dot lead to. -/
def ruledLetters : List Char := ['\u03C2', '\u03C3', 'i', '\u0307']

theorem ruledLetters_plain :
    (ruledLetters.all fun d =>
      d != '\u03A3' && d != '\u0130' && !unusedRanges.contains d && caseSpans.all (!·.contains d.toNat)) = true := by
  decide +kernel

theorem lowersTo_of_rule {d : Char} (h : d ∈ ruledLetters) (c : Char) : LowersTo c d := by
  have hplain := List.all_eq_true.mp ruledLetters_plain d h
  simp only [Bool.and_eq_true, bne_iff_ne, Bool.not_eq_true'] at hplain
  obtain ⟨⟨⟨hsigma, hdotted⟩, hunused⟩, hspans⟩ := hplain
  have hnone : caseSpans.find? (·.contains d.toNat) = none := by
    refine List.find?_eq_none.mpr fun s hs => ?_
    simpa using List.all_eq_true.mp hspans s hs
  exact .of_letter ⟨hsigma, lowerChar_of_none hdotted hnone⟩ hunused

theorem lowersTo_of_mem_lowerChar {c d : Char} (hc : c ≠ '\u03A3') (h : d ∈ lowerChar c) : LowersTo c d := by
  rcases lowerChar_cases c with hrule | ⟨s, hs, hcontains, hspan⟩ | hsame
  · rw [hrule] at h
    exact lowersTo_of_rule (List.mem_cons_of_mem _ (List.mem_cons_of_mem _ h)) c
  · rw [hspan] at h
    rw [List.mem_singleton.mp h]
    exact lowersTo_lower hs hcontains c
  · rw [hsame] at h
    rw [List.mem_singleton.mp h]
    exact ⟨⟨hc, hsame⟩, fun _ => rfl⟩

theorem lowerChar_ne_nil (c : Char) : lowerChar c ≠ [] := by
  unfold lowerChar
  split
  · exact List.cons_ne_nil _ _
  · split <;> exact List.cons_ne_nil _ _

/-! ## Lower-case forms of texts -/

/-- What a character becomes between other characters. -/
def lowerAt (before : List Char) (c : Char) (rest : List Char) : List Char :=
  if c = '\u03A3' then [if isFinalSigma before rest then '\u03C2' else '\u03C3'] else lowerChar c

theorem lowerChars_cons (before : List Char) (c : Char) (rest : List Char) :
    lowerChars before (c :: rest) = lowerAt before c rest ++ lowerChars (c :: before) rest := by
  rw [lowerChars, lowerAt]
  split <;> rfl

theorem lowerAt_ne_nil (before : List Char) (c : Char) (rest : List Char) : lowerAt before c rest ≠ [] := by
  unfold lowerAt
  split
  · exact List.cons_ne_nil _ _
  · exact lowerChar_ne_nil c

theorem lowersTo_of_mem_lowerAt {before rest : List Char} {c d : Char} (h : d ∈ lowerAt before c rest) : LowersTo c d := by
  unfold lowerAt at h
  split at h
  · apply lowersTo_of_rule
    rw [List.mem_singleton.mp h]
    split
    · decide
    · decide
  · next hc => exact lowersTo_of_mem_lowerChar hc h

theorem isSmall_of_mem_lowerChars {before cs : List Char} {d : Char} (h : d ∈ lowerChars before cs) : IsSmall d := by
  induction cs generalizing before with
  | nil => cases h
  | cons c rest ih =>
    rw [lowerChars_cons] at h
    rcases List.mem_append.mp h with h | h
    · exact (lowersTo_of_mem_lowerAt h).small
    · exact ih h

/-- Small letters stay as they are. -/
theorem lowerChars_of_isSmall {cs : List Char} (h : ∀ c ∈ cs, IsSmall c) (before : List Char) :
    lowerChars before cs = cs := by
  induction cs generalizing before with
  | nil => rfl
  | cons c rest ih =>
    obtain ⟨hc, hrest⟩ := List.forall_mem_cons.mp h
    rw [lowerChars, if_neg hc.ne_sigma, hc.lowerChar_eq, ih hrest]
    rfl

/-- A lower-case form has no other lower-case form, although some characters become two of them and others depend on
    what is around them. -/
@[simp] theorem lowerCase_lowerCase (s : String) : lowerCase (lowerCase s) = lowerCase s := by
  unfold lowerCase
  rw [String.toList_ofList, lowerChars_of_isSmall fun c hc => isSmall_of_mem_lowerChars hc]

/-- Signs and blanks are no lower-case forms of anything else. -/
theorem mem_of_mem_lowerChars {before cs : List Char} {d : Char} (hd : unusedRanges.contains d = true)
    (h : d ∈ lowerChars before cs) : d ∈ cs := by
  induction cs generalizing before with
  | nil => cases h
  | cons c rest ih =>
    rw [lowerChars_cons] at h
    rcases List.mem_append.mp h with h | h
    · exact List.mem_cons.mpr (.inl ((lowersTo_of_mem_lowerAt h).eq_of_unused hd))
    · exact List.mem_cons_of_mem c (ih h)

/-- A lower-case form has a sign only if the text has it. -/
theorem mem_of_mem_lowerCase {s : String} {d : Char} (hd : unusedRanges.contains d = true)
    (h : d ∈ (lowerCase s).toList) : d ∈ s.toList := by
  unfold lowerCase at h
  rw [String.toList_ofList] at h
  exact mem_of_mem_lowerChars hd h

/-! ## Blanks at the ends -/

theorem unused_of_isBlankChar {c : Char} (h : isBlankChar c = true) : unusedRanges.contains c = true := by
  simp only [isBlankChar, Bool.or_eq_true, Bool.and_eq_true, decide_eq_true_eq, beq_iff_eq] at h
  simp only [unusedRanges, CharRanges.contains, List.any_cons, List.any_nil, Bool.or_eq_true, Bool.and_eq_true,
    decide_eq_true_eq, Bool.or_false]
  omega

/-- No blank comes from a character that is none. -/
theorem isBlankChar_of_mem_lowerAt {before rest : List Char} {c d : Char} (h : d ∈ lowerAt before c rest)
    (hc : isBlankChar c = false) : isBlankChar d = false := by
  by_contra hd
  have hblank := eq_true_of_ne_false hd
  rw [(lowersTo_of_mem_lowerAt h).eq_of_unused (unused_of_isBlankChar hblank), hc] at hblank
  cases hblank

/-- The last character of a text is what is left of it at the end. -/
theorem getLast?_lowerChars {before cs : List Char} {d : Char} (h : (lowerChars before cs).getLast? = some d) :
    ∃ c before', cs.getLast? = some c ∧ d ∈ lowerAt before' c [] := by
  induction cs generalizing before with
  | nil => cases h
  | cons c rest ih =>
    rw [lowerChars_cons] at h
    cases rest with
    | nil =>
      rw [lowerChars, List.append_nil] at h
      exact ⟨c, before, rfl, List.mem_of_getLast? h⟩
    | cons e rest =>
      have hne : lowerChars (c :: before) (e :: rest) ≠ [] := by
        rw [lowerChars_cons]
        exact List.append_ne_nil_of_left_ne_nil (lowerAt_ne_nil (c :: before) e rest) _
      rw [List.getLast?_append, List.getLast?_eq_some_getLast hne] at h
      rw [List.getLast?_cons_cons]
      exact @ih (c :: before) ((List.getLast?_eq_some_getLast hne).trans h)

/-- Lower-casing puts no blanks at the ends of a text. -/
theorem NoBlankEnds.lowerChars {cs : List Char} (h : NoBlankEnds cs) : NoBlankEnds (lowerChars [] cs) := by
  refine ⟨fun d hd => ?_, fun d hd => ?_⟩
  · cases cs with
    | nil => cases hd
    | cons c rest =>
      have hhead : d ∈ lowerAt [] c rest := by
        rw [lowerChars_cons, List.head?_append, List.head?_eq_some_head (lowerAt_ne_nil [] c rest)] at hd
        cases hd
        exact List.head_mem _
      exact isBlankChar_of_mem_lowerAt hhead (h.first c rfl)
  · obtain ⟨c, before, hc, hmem⟩ := getLast?_lowerChars hd
    exact isBlankChar_of_mem_lowerAt hmem (h.last c hc)

/-! ## Letters that come from one capital only -/

/-- The small basic Latin letters that are lower-case forms of themselves and of their capital only. The capital I with a
    dot becomes the letter i, too, and the sign for kelvin becomes the letter k. -/
def plainLetters : CharRanges := ⟨[(0x61, 0x68), (0x6A, 0x6A), (0x6C, 0x7A)]⟩

/-- The basic Latin capitals. -/
def latinSpan : CaseSpan := ⟨0x41, 0x5A, 1, 0x61⟩

theorem caseSpans_avoid_plain :
    ∀ s ∈ caseSpans, s = latinSpan ∨ ∀ r ∈ plainLetters.ranges, s.avoidsRange r = true := by decide +kernel

theorem lowerChar_small : ∀ n < 26, lowerChar (Char.ofNat (97 + n)) = [Char.ofNat (97 + n)] := by decide +kernel

variable {c d : Char}

theorem toNat_of_plain (h : plainLetters.contains d = true) : 97 ≤ d.toNat ∧ d.toNat ≤ 122 := by
  simp only [plainLetters, CharRanges.contains, List.any_cons, List.any_nil, Bool.or_eq_true, Bool.and_eq_true,
    decide_eq_true_eq, Bool.or_false] at h
  omega

/-- A plain letter is small. -/
theorem isSmall_of_plain (h : plainLetters.contains d = true) : IsSmall d := by
  obtain ⟨hlow, hhigh⟩ := toNat_of_plain h
  obtain ⟨n, hn, hd⟩ := exists_eq_ofNat hlow
  constructor
  · rintro rfl
    exact absurd h (by decide)
  · rw [hd]
    exact lowerChar_small n (by omega)

/-- A span that leads to a plain letter is the one of the basic Latin capitals. -/
theorem toLower_of_span {s : CaseSpan} (hs : s ∈ caseSpans) (hc : s.contains c.toNat = true)
    (hd : plainLetters.contains (Char.ofNat (s.lower c.toNat)) = true) :
    c.toLower = Char.ofNat (s.lower c.toNat) := by
  rcases caseSpans_avoid_plain s hs with rfl | havoids
  · obtain ⟨hfirst, hlast⟩ := CaseSpan.le_last hc
    have hlow : 65 ≤ c.toNat := hfirst
    obtain ⟨n, hn, hcapital⟩ := exists_eq_ofNat hlow
    have hlt : n < 26 := by
      simp only [latinSpan] at hlast
      omega
    have hlower : latinSpan.lower c.toNat = 97 + n := by
      simp only [latinSpan, CaseSpan.lower]
      omega
    rw [hlower, hcapital]
    exact toLower_capital n hlt
  · obtain ⟨r, hr, hin⟩ := List.any_eq_true.mp hd
    rw [toNat_lower hs hc] at hin
    exact absurd (by simpa using hin) (CaseSpan.lower_of_avoidsRange (havoids r hr) hc)

theorem not_ruled_of_plain (hd : plainLetters.contains d = true) : d ∉ ruledLetters := by
  have hnone : (ruledLetters.all fun e => !plainLetters.contains e) = true := by decide
  intro hmem
  have hother := List.all_eq_true.mp hnone d hmem
  rw [hd] at hother
  cases hother

/-- A plain letter comes from itself or from its capital, wherever that stands. -/
theorem lowerAt_of_plain {before rest : List Char} (hd : plainLetters.contains d = true)
    (h : d ∈ lowerAt before c rest) : lowerAt before c rest = [d] ∧ c.toLower = d := by
  have hruled := not_ruled_of_plain hd
  unfold lowerAt at h ⊢
  by_cases hsigma : c = '\u03A3'
  · rw [if_pos hsigma] at h
    refine absurd ?_ hruled
    rw [List.mem_singleton.mp h]
    split <;> decide
  · rw [if_neg hsigma] at h ⊢
    rcases lowerChar_cases c with hrule | ⟨s, hs, hcontains, hspan⟩ | hsame
    · rw [hrule] at h
      exact absurd (List.mem_cons_of_mem _ (List.mem_cons_of_mem _ h)) hruled
    · rw [hspan] at h ⊢
      have heq := List.mem_singleton.mp h
      rw [heq] at hd ⊢
      exact ⟨rfl, toLower_of_span hs hcontains hd⟩
    · rw [hsame] at h ⊢
      have heq := List.mem_singleton.mp h
      rw [heq] at hd ⊢
      -- a character behind the capitals is the same in small letters
      have hlow := (toNat_of_plain hd).1
      refine ⟨rfl, dif_neg fun hcapital => ?_⟩
      have hhigh : c.toNat ≤ 90 := hcapital.2
      omega

/-- A text becomes a word of plain letters by the case of its basic Latin letters alone, no matter which other characters
    there are. -/
theorem lowerChars_eq_iff {before cs word : List Char} (hword : word.all plainLetters.contains = true) :
    lowerChars before cs = word ↔ cs.map Char.toLower = word := by
  constructor
  · intro h
    induction cs generalizing before word with
    | nil => exact h
    | cons c rest ih =>
      rw [lowerChars_cons] at h
      cases word with
      | nil => exact absurd (List.append_eq_nil_iff.mp h).1 (lowerAt_ne_nil before c rest)
      | cons d more =>
        rw [List.all_cons, Bool.and_eq_true] at hword
        obtain ⟨hd, hmore⟩ := hword
        obtain ⟨e, es, hcons⟩ := List.exists_cons_of_ne_nil (lowerAt_ne_nil before c rest)
        have hmem : d ∈ lowerAt before c rest := by
          rw [hcons] at h ⊢
          exact List.mem_cons.mpr (.inl (List.cons.inj h).1.symm)
        obtain ⟨hat, hlower⟩ := lowerAt_of_plain hd hmem
        rw [hat] at h
        obtain ⟨_, hrest⟩ := List.cons.inj h
        rw [List.map_cons, hlower, ih hmore hrest]
  · intro h
    rw [← lowerChars_map, h]
    exact lowerChars_of_isSmall (fun d hd => isSmall_of_plain (List.all_eq_true.mp hword d hd)) _

end GraphLift.Text
