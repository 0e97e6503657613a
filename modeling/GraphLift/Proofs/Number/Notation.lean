import GraphLift.Number.Double
import GraphLift.Proofs.Text.Blank

/-! # The characters of numerals

    A number is written with digits, signs, the point and the letter of an exponent. Only a double that is
    infinite or no number has a name instead.

    * **Whole numbers** (`isNumeral_int`) have characters of numerals only, and one at least.
    * **Doubles** (`Double.isNumeralChar_of_mem_spelled`) have others only in the names of what is infinite and of what is
      no number.
    * **What is no number** (`HasLetterA`) is told by a letter that no other numeral has, whichever way it is read.
-/

namespace GraphLift

/-- A character of numerals: a digit, a sign, the point, or the letter in front of an exponent. -/
def isNumeralChar (c : Char) : Bool :=
  c.isDigit || c == '-' || c == '+' || c == '.' || c == 'e'

/-- Characters of numerals only. -/
def IsNumeral (cs : List Char) : Prop :=
  ∀ c ∈ cs, isNumeralChar c = true

/-! ## Parts of numerals -/

@[simp] theorem isNumeral_nil : IsNumeral [] := by
  simp [IsNumeral]

@[simp] theorem isNumeral_cons {c : Char} {cs : List Char} :
    IsNumeral (c :: cs) ↔ isNumeralChar c = true ∧ IsNumeral cs := by
  simp [IsNumeral]

@[simp] theorem isNumeral_append {cs ds : List Char} : IsNumeral (cs ++ ds) ↔ IsNumeral cs ∧ IsNumeral ds := by
  simp [IsNumeral, or_imp, forall_and]

@[simp] theorem isNumeral_toDigits (n : Nat) : IsNumeral (Nat.toDigits 10 n) := by
  intro c hc
  simp [isNumeralChar, Nat.isDigit_of_mem_toDigits (by decide) (by decide) hc]

@[simp] theorem isNumeral_zeros (n : Nat) : IsNumeral (Binary64.zeros n) := by
  intro c hc
  rw [List.eq_of_mem_replicate hc]
  decide

theorem IsNumeral.take {cs : List Char} (h : IsNumeral cs) (n : Nat) : IsNumeral (cs.take n) :=
  fun c hc => h c (List.mem_of_mem_take hc)

theorem IsNumeral.drop {cs : List Char} (h : IsNumeral cs) (n : Nat) : IsNumeral (cs.drop n) :=
  fun c hc => h c (List.mem_of_mem_drop hc)

/-! ## Whole numbers -/

theorem toList_toString (n : Int) :
    (toString n).toList = if 0 ≤ n then Nat.toDigits 10 n.toNat else '-' :: Nat.toDigits 10 (-n).toNat := by
  rw [Int.toString_eq_repr, Int.repr_eq_if]
  split
  · rw [Nat.toList_repr]
  · rw [String.toList_append, Nat.toList_repr]
    rfl

theorem isNumeral_int (n : Int) : IsNumeral (toString n).toList := by
  rw [toList_toString]
  split
  · exact isNumeral_toDigits _
  · simp only [isNumeral_cons, isNumeral_toDigits, and_true]
    decide

theorem int_ne_nil (n : Int) : (toString n).toList ≠ [] := by
  rw [toList_toString]
  split
  · exact Nat.toDigits_ne_nil
  · exact List.cons_ne_nil _ _

/-! ## Doubles -/

namespace Binary64.Spelling

variable (s : Spelling)

theorem isNumeral_numeral (digits : Nat) (power : Int) : IsNumeral (s.numeral digits power) := by
  have hdigits := isNumeral_toDigits digits
  have hpoint : isNumeralChar '.' = true := by decide
  have hzero : isNumeralChar '0' = true := by decide
  unfold numeral
  generalize Nat.toDigits 10 digits = ds at hdigits
  dsimp only
  split
  · -- the digits behind the first one, if there are any, follow a point
    have hletter : isNumeralChar 'e' = true := by decide
    have hsign : ∀ leading : Int, isNumeralChar (if leading < 0 then '-' else '+') = true := by
      intro leading
      split <;> decide
    simp only [isNumeral_append, isNumeral_cons, isNumeral_nil, isNumeral_toDigits, isNumeral_zeros, hletter, hsign,
      and_true]
    split
    · exact isNumeral_nil
    · exact hdigits
    · simp only [isNumeral_cons] at hdigits ⊢
      exact ⟨hdigits.1, hpoint, hdigits.2⟩
  · split
    · simp [hdigits, hpoint, hzero]
    · split
      · simp [hdigits.take, hdigits.drop, hpoint]
      · simp [hdigits, hpoint, hzero]

theorem isNumeral_finite (negative : Bool) (m : Nat) (e : Int) :
    IsNumeral (s.text (.finite negative m e)).toList := by
  have hminus : isNumeralChar '-' = true := by decide
  have hzero : isNumeralChar '0' = true := by decide
  have hpoint : isNumeralChar '.' = true := by decide
  unfold text
  rw [String.toList_ofList, isNumeral_append]
  constructor
  · split
    · simp [hminus]
    · simp
  · split
    · simp [hzero, hpoint]
    · exact s.isNumeral_numeral _ _

/-- A double is written as a numeral, but for the name of what is infinite. -/
theorem isNumeralChar_of_mem_text {x : Binary64} {c : Char} (h : c ∈ (s.text x).toList) :
    isNumeralChar c = true ∨ c ∈ s.infinity.toList := by
  cases x with
  | finite negative m e => exact .inl (s.isNumeral_finite negative m e c h)
  | infinite negative =>
    rw [text, String.toList_append] at h
    rcases List.mem_append.mp h with hsign | hname
    · left
      cases negative with
      | false => simp at hsign
      | true =>
        have hminus : c = '-' := by simpa using hsign
        rw [hminus]
        decide
    · exact .inr hname

end Binary64.Spelling

/-- A double is written as a numeral, but for the names of what is infinite and of what is no number. -/
theorem Double.isNumeralChar_of_mem_spelled (s : Binary64.Spelling) {x : Double} {c : Char}
    (h : c ∈ (x.spelled s).toList) : isNumeralChar c = true ∨ c ∈ (s.infinity ++ s.undefined).toList := by
  rw [String.toList_append, List.mem_append]
  cases x with
  | number x => exact (s.isNumeralChar_of_mem_text h).imp_right .inl
  | undefined => exact .inr (.inr h)

/-! ## What is no number -/

/-- The letter A is among the characters, in either letter case. -/
def HasLetterA (cs : List Char) : Prop :=
  ∃ c ∈ cs, c.toLower = 'a'

theorem HasLetterA.mono {cs ds : List Char} (h : HasLetterA cs) (hsub : cs ⊆ ds) : HasLetterA ds := by
  obtain ⟨c, hc, hletter⟩ := h
  exact ⟨c, hsub hc, hletter⟩

theorem hasLetterA_of_mem_folded {cs : List Char} (h : 'a' ∈ Numeral.folded cs) : HasLetterA cs := by
  obtain ⟨c, hc, hletter⟩ := List.mem_map.mp h
  exact ⟨c, hc, hletter⟩

theorem Text.splitSign_subset (cs : List Char) : (splitSign cs).2 ⊆ cs := by
  unfold splitSign
  split
  · exact List.subset_cons_self _ _
  · exact List.subset_cons_self _ _
  · exact List.Subset.refl _

namespace Numeral

variable {negative alarming : Bool} {payload cs : List Char}

/-- Only the words for no number, with a letter in front or without one, are read as such. -/
theorem hasLetterA_of_ofWord? {sign : Bool} (h : ofWord? sign cs = some (.undefined negative alarming payload)) :
    HasLetterA cs := by
  apply hasLetterA_of_mem_folded
  unfold ofWord? at h
  split at h
  · cases h
  · cases h
  · next hword => simp [hword]
  · next hword => simp [hword]
  · cases h

theorem hasLetterA_of_read? (h : read? cs = some (.undefined negative alarming payload)) : HasLetterA cs := by
  unfold read? at h
  dsimp only at h
  split at h
  · cases h
  · exact (hasLetterA_of_ofWord? h).mono (Text.splitSign_subset cs)

theorem hasLetterA_of_readDecimal? {s : String} (h : readDecimal? s = some (.undefined negative alarming payload)) :
    HasLetterA s.toList := by
  have hread := hasLetterA_of_read? (Option.filter_eq_some_iff.mp h).1
  refine hread.mono fun c hc => ?_
  exact Text.mem_of_mem_trimChars (List.mem_filter.mp hc).1

end Numeral

namespace Double

/-- Nothing but underscores is left out. -/
theorem withoutUnderscores?_subset {afterDigit : Bool} {cs kept : List Char}
    (h : withoutUnderscores? afterDigit cs = some kept) : kept ⊆ cs := by
  induction afterDigit, cs using withoutUnderscores?.induct generalizing kept with
  | case1 afterDigit =>
    cases h
    exact List.Subset.refl _
  | case2 afterDigit c rest hdigit ih =>
    rw [withoutUnderscores?, if_pos hdigit] at h
    obtain ⟨kept', hkept, rfl⟩ := Option.map_eq_some_iff.mp h
    exact List.subset_cons_of_subset _ (List.cons_subset_cons c (ih hkept))
  | case3 afterDigit c rest hdigit =>
    rw [withoutUnderscores?, if_neg hdigit] at h
    cases h
  | case4 afterDigit => cases h
  | case5 afterDigit c rest hpair hlast ih =>
    rw [withoutUnderscores?] at h
    · obtain ⟨kept', hkept, rfl⟩ := Option.map_eq_some_iff.mp h
      exact List.cons_subset_cons c (ih hkept)
    · exact hpair
    · exact hlast

theorem hasLetterA_of_read? {s : String} (h : read? s = some .undefined) : HasLetterA s.toList := by
  obtain ⟨kept, hkept, h⟩ := Option.bind_eq_some_iff.mp h
  obtain ⟨n, hn, h⟩ := Option.bind_eq_some_iff.mp h
  have hsub : kept ⊆ s.toList := fun c hc => Text.mem_of_mem_trimChars (withoutUnderscores?_subset hkept hc)
  unfold ofNumeral? at h
  split at h
  · cases h
  · cases h
  · exact (Numeral.hasLetterA_of_read? hn).mono hsub
  · cases h

end Double

end GraphLift
