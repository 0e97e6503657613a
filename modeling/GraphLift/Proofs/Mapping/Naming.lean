import GraphLift.Proofs.Mapping.Derivation
import Mathlib.Data.List.TakeDrop

/-! # What resources are named by

    Texts from anywhere end up as names of resources: constants, replacements, expanded formats, and what the document
    says. A resource gets such a text as its name only if the text is an absolute IRI.

    * **Absolute IRIs** (`Iri.Absolute`): a scheme, a colon, and anything on the same line. No such text is blank.
    * **Names** (`Identity.WellNamed`): every identity comes from `Identity.ofText`, which looks at the text.
    * **Mapping** (`Mapper.adds_wellNamed`) adds triples whose subjects are well named, and their objects as well, except
      for types, which are taken as they are written.
-/

namespace GraphLift

/-! ## Absolute IRIs -/

namespace Iri

/-- The text is a scheme, a colon, and characters other than line feeds. A scheme is a basic Latin letter and then
    letters, digits, plus signs, points and hyphens. -/
def Absolute (s : String) : Prop :=
  ∃ (first : Char) (scheme rest : List Char), s.toList = first :: scheme ++ ':' :: rest ∧
    isLetter first = true ∧ (∀ c ∈ scheme, isSchemeChar c = true) ∧ '\n' ∉ rest

/-- A stretch of characters goes as far as a colon if the colon is none of them. -/
theorem dropWhile_colon_iff {p : Char → Bool} (hcolon : ¬ p ':' = true) {cs rest : List Char} :
    cs.dropWhile p = ':' :: rest ↔ ∃ scheme, cs = scheme ++ ':' :: rest ∧ ∀ c ∈ scheme, p c = true := by
  constructor
  · intro h
    refine ⟨cs.takeWhile p, ?_, fun c hc => List.mem_takeWhile_imp hc⟩
    rw [← h, List.takeWhile_append_dropWhile]
  · intro h
    obtain ⟨scheme, rfl, hscheme⟩ := h
    rw [List.dropWhile_append_of_pos hscheme, List.dropWhile_cons_of_neg hcolon]

theorem isAbsolute_iff {s : String} : isAbsolute s = true ↔ Absolute s := by
  unfold isAbsolute isAbsoluteChars
  constructor
  · intro h
    split at h
    · next rest hrest =>
      cases hs : s.toList with
      | nil =>
        rw [hs] at hrest
        cases hrest
      | cons first cs =>
        rw [hs, afterScheme?, Option.ite_none_right_eq_some] at hrest
        obtain ⟨hfirst, hrest⟩ := hrest
        obtain ⟨scheme, hcs, hscheme⟩ := (dropWhile_colon_iff (by decide)).mp (Option.some.inj hrest)
        have hline : '\n' ∉ rest := by simpa using h
        exact ⟨first, scheme, rest, by rw [hs, hcs, List.cons_append], hfirst, hscheme, hline⟩
    · cases h
  · intro h
    obtain ⟨first, scheme, rest, hs, hfirst, hscheme, hline⟩ := h
    have hdrop : (scheme ++ ':' :: rest).dropWhile isSchemeChar = ':' :: rest :=
      (dropWhile_colon_iff (by decide)).mpr ⟨scheme, rfl, hscheme⟩
    rw [hs, List.cons_append, afterScheme?, if_pos hfirst, hdrop]
    simpa using hline

/-- A line feed behind the colon is enough for a text to name nothing. -/
example : isAbsolute "urn:thing" = true ∧ isAbsolute "urn:thing\n" = false := by decide

/-- No letter is blank. -/
theorem not_blank_of_isLetter {c : Char} (h : isLetter c = true) : Text.isBlankChar c = false := by
  have hrange : (97 ≤ c.toNat ∧ c.toNat ≤ 122) ∨ (65 ≤ c.toNat ∧ c.toNat ≤ 90) := by
    simpa [isLetter, Char.le_def, UInt32.le_iff_toNat_le] using h
  have hshown : ¬ Text.isBlankChar c = true := by
    intro hblank
    simp only [Text.isBlankChar, Bool.or_eq_true, Bool.and_eq_true, decide_eq_true_eq, beq_iff_eq] at hblank
    omega
  exact Bool.eq_false_iff.mpr hshown

/-- An absolute IRI shows at least the first letter of its scheme. -/
theorem Absolute.not_blank {s : String} (h : Absolute s) : Text.isBlank s = false := by
  obtain ⟨first, scheme, rest, heq, hfirst, _⟩ := h
  rw [Text.isBlank, heq, List.cons_append, List.all_cons, not_blank_of_isLetter hfirst, Bool.false_and]

end Iri

/-! ## Names -/

/-- A blank node, or one with an absolute IRI. -/
inductive Node.WellNamed : Node → Prop where
  | blank (n : Nat) : WellNamed (.blank n)
  | iri {s : String} (absolute : Iri.Absolute s) : WellNamed (.iri s)

/-- No node is named by a text of blanks. -/
theorem Node.WellNamed.not_blank {s : String} (h : (Node.iri s).WellNamed) : Text.isBlank s = false := by
  cases h with
  | iri absolute => exact absolute.not_blank

/-- The subject of the triple is well named, and so is its object, unless the triple gives a type or its object is a
    literal. -/
def Triple.WellNamed (t : Triple) : Prop :=
  t.subject.WellNamed ∧ (t.predicate ≠ rdfType → ∀ n, t.object = .node n → n.WellNamed)

namespace Identity

/-- The IRI, if there is one, is absolute. -/
def WellNamed (i : Identity) : Prop :=
  ∀ s, i = .iri s → Iri.Absolute s

theorem WellNamed.nodeAt {i : Identity} (h : i.WellNamed) (ν : Place → Nat) (p : Place) : (i.nodeAt ν p).WellNamed := by
  cases i with
  | iri s => exact .iri (h s rfl)
  | fresh => exact .blank (ν p)

theorem wellNamed_fresh : fresh.WellNamed := by
  intro s hs
  cases hs

/-- Whatever a text is, the identity that it gives is well named. -/
theorem wellNamed_ofText {text : Option String} {i : Identity} (h : (ofText text).outcome = .ok i) : i.WellNamed := by
  unfold ofText at h
  split at h
  · cases h
    exact wellNamed_fresh
  · next s =>
    by_cases hblank : Text.isBlank s = true
    · rw [if_pos hblank] at h
      cases h
      exact wellNamed_fresh
    · rw [if_neg hblank] at h
      by_cases habsolute : Iri.isAbsolute s = true
      · rw [if_pos habsolute] at h
        cases h
        intro s' hs'
        cases hs'
        exact Iri.isAbsolute_iff.mp habsolute
      · -- the text is reported, and the resource becomes a node of its own
        rw [if_neg habsolute] at h
        cases h
        exact wellNamed_fresh

end Identity

variable [Library]

theorem SubjectRule.wellNamed_identity {r : SubjectRule} {f : Finder} {i : Identity}
    (h : (r.identity f).outcome = .ok i) : i.WellNamed := by
  rw [identity, Traced.outcome_bind] at h
  obtain ⟨text, _, h⟩ := Outcome.bind_eq_ok.mp h
  exact Identity.wellNamed_ofText h

theorem NodeTemplate.wellNamed_identify {n : NodeTemplate} {base : Option String} {f : Finder} {i : Identity}
    (h : (n.identify base f).outcome = .ok i) : i.WellNamed := by
  unfold identify at h
  cases hkind : n.kind with
  | anonymous =>
    rw [hkind] at h
    cases h
    exact Identity.wellNamed_fresh
  | iri =>
    rw [hkind, Traced.outcome_bind] at h
    obtain ⟨text, _, h⟩ := Outcome.bind_eq_ok.mp h
    exact Identity.wellNamed_ofText h

/-- The resources among the values of a property are well named. -/
theorem Property.wellNamed_terms {p : Property} {table : PrefixTable} {f : Finder} {vs : List Value}
    (h : (p.terms table f).outcome = .ok vs) {d : Description} (hd : .resource d ∈ vs) : d.identity.WellNamed := by
  obtain ⟨text, identity, hidentity, rfl⟩ := Property.ofText_of_mem_terms h hd
  exact Identity.wellNamed_ofText hidentity

/-! ## Mapping -/

namespace Mapper

variable {m : Mapper} {scopes : List Finder} {ν : Place → Nat}

theorem Instance.wellNamed {r r' : Occurrence} {j k : Nat} {p : Property} (h : m.Instance r j p k r') :
    r'.identity.WellNamed := by
  cases h with
  | intro _ _ _ _ identified => exact NodeTemplate.wellNamed_identify identified

/-- At every depth, what a template describes is well named. -/
theorem Occurs.wellNamed {r : Occurrence} (h : m.Occurs scopes r) : r.identity.WellNamed := by
  cases h with
  | subject _ identified => exact SubjectRule.wellNamed_identity identified
  | within _ _ inner => exact inner.wellNamed

/-- What a template derives is well named. -/
theorem Derives.wellNamed {t : Triple} (h : m.Derives scopes ν t) : t.WellNamed := by
  cases h with
  | @type r reference type occurs typed expands =>
    -- the object is a type, of which nothing is claimed
    refine ⟨occurs.wellNamed.nodeAt ν r.place, ?_⟩
    intro hpredicate
    exact absurd rfl hpredicate
  | @value r j k predicate p values v occurs _ _ evaluated value =>
    refine ⟨occurs.wellNamed.nodeAt ν r.place, ?_⟩
    intro _ n hn
    cases v with
    | literal l => cases hn
    | resource d =>
      cases hn
      exact (Property.wellNamed_terms evaluated (List.mem_of_getElem? value)).nodeAt ν _
  | @reference r r' j k predicate p occurs _ inner =>
    refine ⟨occurs.wellNamed.nodeAt ν r.place, ?_⟩
    intro _ n hn
    cases hn
    exact inner.wellNamed.nodeAt ν r'.place

/-- What a mapper adds to a graph is well named. -/
theorem adds_wellNamed (m : Mapper) (document : Json) : m.Adds document Triple.WellNamed Node.WellNamed where
  triples _ _ _ _ ht := ht.wellNamed
  nodes _ ν r _ hr := hr.wellNamed.nodeAt ν r.place

end Mapper

end GraphLift
