import GraphLift.Proofs.Mapping.Naming

/-! # What references expand to

    A reference is expanded by its prefix or, if the table does not know that, read as an IRI by itself. Neither way asks
    for what is asked of the names of resources, an absolute IRI and nothing else.

    * **Ways to expand** (`PrefixTable.expand_cases`): outside of angle brackets there are these two.
    * **Loosely absolute texts** (`Iri.LooselyAbsolute`) are all that comes out of either way, if the namespaces are
      absolute IRIs.
    * **Comparison** (`PrefixTable.isAbsolute_expand_iff`): what comes out is an absolute IRI unless there is a line feed
      in it, or one of four foreign letters in its scheme.
-/

namespace GraphLift

namespace Iri

/-- A character that is no basic Latin letter, but has one among its case variants. -/
def isStrayLetter (c : Char) : Bool :=
  c = '\u0130' || c = '\u0131' || c = '\u017F' || c = '\u212A'

theorem isLooseLetter_iff {c : Char} :
    PrefixTable.isLooseLetter c = true ↔ isLetter c = true ∨ isStrayLetter c = true := by
  simp only [PrefixTable.isLooseLetter, isStrayLetter, Bool.or_eq_true, or_assoc]

theorem isLooseSchemeChar_iff {c : Char} :
    PrefixTable.isLooseSchemeChar c = true ↔ isSchemeChar c = true ∨ isStrayLetter c = true := by
  have hletter : isLetter c = true → isSchemeChar c = true := by
    intro h
    simp only [isSchemeChar, h, Bool.true_or]
  rw [PrefixTable.isLooseSchemeChar, Bool.or_eq_true, isLooseLetter_iff]
  tauto

theorem isStrayLetter_of_isSchemeChar {c : Char} (h : isSchemeChar c = true) : isStrayLetter c = false := by
  refine Bool.eq_false_iff.mpr fun hstray => ?_
  simp only [isStrayLetter, Bool.or_eq_true, decide_eq_true_eq] at hstray
  rcases hstray with ((rfl | rfl) | rfl) | rfl
  · exact absurd h (by decide)
  · exact absurd h (by decide)
  · exact absurd h (by decide)
  · exact absurd h (by decide)

/-! ## Loosely absolute texts -/

/-- The text is a scheme, a colon and anything. Foreign letters that are case variants of basic Latin ones may stand in the
    scheme. -/
def LooselyAbsolute (s : String) : Prop :=
  ∃ (first : Char) (scheme rest : List Char), s.toList = first :: scheme ++ ':' :: rest ∧
    PrefixTable.isLooseLetter first = true ∧ ∀ c ∈ scheme, PrefixTable.isLooseSchemeChar c = true

/-- Anything may follow an absolute IRI. -/
theorem Absolute.looselyAbsolute_append {s : String} (h : Absolute s) (t : String) : LooselyAbsolute (s ++ t) := by
  obtain ⟨first, scheme, rest, heq, hfirst, hscheme, _⟩ := h
  refine ⟨first, scheme, rest ++ t.toList, ?_, isLooseLetter_iff.mpr (.inl hfirst), ?_⟩
  · rw [String.toList_append, heq, List.append_assoc]
    rfl
  · intro c hc
    exact isLooseSchemeChar_iff.mpr (.inl (hscheme c hc))

/-- The scheme is what stands before the first colon. -/
theorem takeWhile_scheme {first : Char} {scheme : List Char} (hfirst : PrefixTable.isLooseLetter first = true)
    (hscheme : ∀ c ∈ scheme, PrefixTable.isLooseSchemeChar c = true) (rest : List Char) :
    (first :: scheme ++ ':' :: rest).takeWhile (· != ':') = first :: scheme := by
  have hcolon : ∀ c ∈ first :: scheme, (c != ':') = true := by
    intro c hc
    have hne : c ≠ ':' := by
      rintro rfl
      rcases List.mem_cons.mp hc with rfl | hc
      · exact absurd hfirst (by decide)
      · exact absurd (hscheme ':' hc) (by decide)
    simpa using hne
  rw [List.takeWhile_append_of_pos hcolon, List.takeWhile_cons_of_neg (by decide), List.append_nil]

/-- A loosely absolute text is an absolute IRI if it is one line and its scheme has no foreign letters. -/
theorem LooselyAbsolute.absolute_iff {s : String} (h : LooselyAbsolute s) :
    Absolute s ↔ '\n' ∉ s.toList ∧ ∀ c ∈ s.toList.takeWhile (· != ':'), isStrayLetter c = false := by
  constructor
  · intro habsolute
    obtain ⟨first, scheme, rest, heq, hfirst, hscheme, hline⟩ := habsolute
    have hcut := takeWhile_scheme (isLooseLetter_iff.mpr (.inl hfirst))
      (fun c hc => isLooseSchemeChar_iff.mpr (.inl (hscheme c hc))) rest
    have hchars : ∀ c ∈ first :: scheme, isSchemeChar c = true := by
      intro c hc
      rcases List.mem_cons.mp hc with rfl | hc
      · simp only [isSchemeChar, hfirst, Bool.true_or]
      · exact hscheme c hc
    rw [heq, hcut]
    refine ⟨?_, fun c hc => isStrayLetter_of_isSchemeChar (hchars c hc)⟩
    intro hmem
    rcases List.mem_append.mp hmem with hmem | hmem
    · exact absurd (hchars '\n' hmem) (by decide)
    · rcases List.mem_cons.mp hmem with hcolon | hmem
      · exact absurd hcolon (by decide)
      · exact hline hmem
  · intro hshape
    obtain ⟨hline, hplain⟩ := hshape
    obtain ⟨first, scheme, rest, heq, hfirst, hscheme⟩ := h
    rw [heq, takeWhile_scheme hfirst hscheme rest] at hplain
    rw [heq] at hline
    refine ⟨first, scheme, rest, heq, ?_, ?_, ?_⟩
    · have hletter := isLooseLetter_iff.mp hfirst
      rwa [hplain first List.mem_cons_self, or_iff_left Bool.false_ne_true] at hletter
    · intro c hc
      have hchar := isLooseSchemeChar_iff.mp (hscheme c hc)
      rwa [hplain c (List.mem_cons_of_mem _ hc), or_iff_left Bool.false_ne_true] at hchar
    · intro hmem
      exact hline (List.mem_append_right _ (List.mem_cons_of_mem _ hmem))

end Iri

namespace PrefixTable

/-! ## References that are IRIs by themselves -/

theorem looselyAbsolute_of_hasAuthority {cs : List Char} (h : isSelfContained.hasAuthority cs = true) :
    Iri.LooselyAbsolute (String.ofList cs) := by
  unfold isSelfContained.hasAuthority at h
  split at h
  · next rest hafter =>
    cases cs with
    | nil => cases hafter
    | cons first cs =>
      rw [Iri.afterScheme?, Option.ite_none_right_eq_some] at hafter
      obtain ⟨hfirst, hafter⟩ := hafter
      obtain ⟨scheme, rfl, hscheme⟩ := (Iri.dropWhile_colon_iff (by decide)).mp (Option.some.inj hafter)
      exact ⟨first, scheme, '/' :: '/' :: rest, String.toList_ofList, hfirst, hscheme⟩
  · cases h

theorem looselyAbsolute_of_isSelfContained {cs : List Char} (h : isSelfContained cs = true) :
    Iri.LooselyAbsolute (String.ofList cs) := by
  unfold isSelfContained at h
  split at h
  · next u r n rest =>
    rcases Bool.or_eq_true_iff.mp h with hurn | hauthority
    · have hcases : ((u = 'u' ∨ u = 'U') ∧ (r = 'r' ∨ r = 'R')) ∧ (n = 'n' ∨ n = 'N') := by simpa using hurn
      obtain ⟨⟨hu, hr⟩, hn⟩ := hcases
      have hletter : isLooseLetter u = true := by rcases hu with rfl | rfl <;> decide
      have hsecond : isLooseSchemeChar r = true := by rcases hr with rfl | rfl <;> decide
      have hthird : isLooseSchemeChar n = true := by rcases hn with rfl | rfl <;> decide
      refine ⟨u, [r, n], rest, String.toList_ofList, hletter, ?_⟩
      rintro c (_ | ⟨_, _ | ⟨_, hc⟩⟩)
      · exact hsecond
      · exact hthird
      · cases hc
    · exact looselyAbsolute_of_hasAuthority hauthority
  · exact looselyAbsolute_of_hasAuthority h

theorem looselyAbsolute_of_selfExpansion {cs : List Char} {s : String} (h : selfExpansion cs = some s) :
    Iri.LooselyAbsolute s := by
  unfold selfExpansion at h
  obtain ⟨hself, rfl⟩ := Option.ite_none_right_eq_some.mp h |>.imp_right Option.some.inj
  exact looselyAbsolute_of_isSelfContained hself

/-! ## Ways to expand -/

variable {table : PrefixTable} {reference : String}

/-- The trimmed reference has no angle brackets around it. -/
def Unbracketed (reference : String) : Prop :=
  unbracket? (Text.trimChars reference.toList) = none

instance : Decidable (Unbracketed reference) :=
  inferInstanceAs (Decidable (_ = _))

/-- The table has no namespace for what stands before the first colon of the trimmed reference, if there is a colon. -/
def Unknown (table : PrefixTable) (reference : String) : Prop :=
  ∀ name rest, splitColon? (Text.trimChars reference.toList) = some (name, rest) → table.namespaceOf? name = none

/-- A reference with an unknown prefix, or without one, is an IRI by itself or nothing. -/
theorem expand_of_unknown (hform : Unbracketed reference) (hunknown : table.Unknown reference) :
    table.expand reference = .ok (selfExpansion (Text.trimChars reference.toList)) := by
  unfold Unbracketed at hform
  unfold Unknown at hunknown
  unfold expand
  generalize Text.trimChars reference.toList = s at hform hunknown ⊢
  dsimp only
  by_cases hempty : s.isEmpty = true
  · rw [if_pos hempty, List.isEmpty_iff.mp hempty]
    rfl
  · rw [if_neg hempty, hform]
    cases hsplit : splitColon? s with
    | none => rfl
    | some split =>
      obtain ⟨name, rest⟩ := split
      dsimp only
      rw [hunknown name rest hsplit]

/-- A reference with a known prefix is the namespace and what follows the first colon. -/
theorem expand_of_namespace (hform : Unbracketed reference) {name rest ns : String}
    (hsplit : splitColon? (Text.trimChars reference.toList) = some (name, rest))
    (hns : table.namespaceOf? name = some (.text ns)) : table.expand reference = .ok (some (ns ++ rest)) := by
  unfold Unbracketed at hform
  unfold expand
  generalize Text.trimChars reference.toList = s at hform hsplit ⊢
  have hempty : ¬ s.isEmpty = true := by
    intro hempty
    rw [List.isEmpty_iff.mp hempty] at hsplit
    cases hsplit
  dsimp only
  rw [if_neg hempty, hform, hsplit]
  dsimp only
  rw [hns]

/-- All namespaces of the table are absolute IRIs. -/
def NamesIris (table : PrefixTable) : Prop :=
  ∀ e ∈ table.entries, ∃ ns, e.2 = .text ns ∧ Iri.isAbsolute ns = true

theorem NamesIris.absolute_of_namespaceOf? (h : table.NamesIris) {name : String} {v : Json}
    (hv : table.namespaceOf? name = some v) : ∃ ns, v = .text ns ∧ Iri.Absolute ns := by
  obtain ⟨e, he, rfl, _⟩ := exists_entry_of_namespaceOf? hv
  obtain ⟨ns, hns, habsolute⟩ := h e he
  exact ⟨ns, hns, Iri.isAbsolute_iff.mp habsolute⟩

/-- Outside of angle brackets, a table of absolute IRIs puts a namespace in front of the reference or takes the reference
    as it is. -/
theorem expand_cases (h : table.NamesIris) (hform : Unbracketed reference) :
    table.expand reference = .ok (selfExpansion (Text.trimChars reference.toList)) ∨
      ∃ ns rest, Iri.Absolute ns ∧ table.expand reference = .ok (some (ns ++ rest)) := by
  by_cases hunknown : table.Unknown reference
  · exact .inl (expand_of_unknown hform hunknown)
  · obtain ⟨name, rest, hsplit, hknown⟩ : ∃ name rest,
        splitColon? (Text.trimChars reference.toList) = some (name, rest) ∧ table.namespaceOf? name ≠ none := by
      simpa [Unknown] using hunknown
    obtain ⟨v, hv⟩ := Option.ne_none_iff_exists'.mp hknown
    obtain ⟨ns, rfl, habsolute⟩ := h.absolute_of_namespaceOf? hv
    exact .inr ⟨ns, rest, habsolute, expand_of_namespace hform hsplit hv⟩

/-! ## Comparison with absolute IRIs -/

/-- A table of absolute IRIs expands every reference without angle brackets, to nothing or to a text. The text is an
    absolute IRI unless there is a line feed in it or a foreign letter in its scheme. -/
theorem isAbsolute_expand_iff (h : table.NamesIris) (hform : Unbracketed reference) :
    ∃ expansion, table.expand reference = .ok expansion ∧ ∀ s, expansion = some s →
      (Iri.isAbsolute s = true ↔
        '\n' ∉ s.toList ∧ ∀ c ∈ s.toList.takeWhile (· != ':'), Iri.isStrayLetter c = false) := by
  rcases expand_cases h hform with hself | ⟨ns, rest, habsolute, hjoined⟩
  · refine ⟨_, hself, fun s hs => ?_⟩
    exact Iri.isAbsolute_iff.trans (looselyAbsolute_of_selfExpansion hs).absolute_iff
  · refine ⟨_, hjoined, fun s hs => ?_⟩
    cases hs
    exact Iri.isAbsolute_iff.trans (habsolute.looselyAbsolute_append rest).absolute_iff

/-- A local part on two lines: what it expands to is no absolute IRI, and no foreign letter is to blame. -/
theorem isAbsolute_expand_ofTexts :
    (ofTexts [("ex", "http://example.org/")]).NamesIris ∧ Unbracketed " ex:a\nb " ∧
      ∃ expansion, (ofTexts [("ex", "http://example.org/")]).expand " ex:a\nb " = .ok expansion ∧
        ∀ s, expansion = some s → (Iri.isAbsolute s = true ↔
          '\n' ∉ s.toList ∧ ∀ c ∈ s.toList.takeWhile (· != ':'), Iri.isStrayLetter c = false) := by
  have hnames : (ofTexts [("ex", "http://example.org/")]).NamesIris := by
    intro e he
    exact ⟨"http://example.org/", by rw [List.mem_singleton.mp he], by decide⟩
  have hform : Unbracketed " ex:a\nb " := by decide
  exact ⟨hnames, hform, isAbsolute_expand_iff hnames hform⟩

/-- The empty table takes two references as they are, neither of which is an absolute IRI: one goes on behind a line feed,
    and the scheme of the other is a long s. -/
theorem expand_not_isAbsolute :
    (ofTexts []).NamesIris ∧ ∀ reference ∈ ["http://e/a\nb", "\u017f://x"], Unbracketed reference ∧
      (ofTexts []).expand reference = .ok (some reference) ∧ Iri.isAbsolute reference = false := by
  have hempty : ∀ {reference : String}, (ofTexts []).Unknown reference := fun _ _ _ => rfl
  have hfirst : Unbracketed "http://e/a\nb" := by decide
  have hsecond : Unbracketed "\u017f://x" := by decide
  refine ⟨fun e he => absurd he List.not_mem_nil, List.forall_mem_cons.mpr ⟨⟨hfirst, ?_, by decide⟩,
    List.forall_mem_singleton.mpr ⟨hsecond, ?_, by decide⟩⟩⟩
  · rw [expand_of_unknown hfirst hempty]
    exact congrArg Except.ok (by decide)
  · rw [expand_of_unknown hsecond hempty]
    exact congrArg Except.ok (by decide)

end PrefixTable

end GraphLift
