import GraphLift.Proofs.Mapping.Success
import GraphLift.Proofs.PrefixTable.Expansion

/-! # Datatypes of literals

    The datatype of a property is a reference like its predicate, but one that starts as a web address is not looked up.

    * **Web addresses** (`IsWebAddress`) are taken as they are written. The table would give the same for one that is
      trimmed and has no prefix that the table knows (`PrefixTable.expand_webAddress`).
    * **Other references** are expanded, and stay as they are written if there is no expansion.
    * **Literals** (`Property.literal_datatype`) carry what their reference is resolved to, and no language.
-/

namespace GraphLift

/-- The text starts as a web address. -/
def IsWebAddress (s : String) : Prop :=
  "http".toList <+: s.toList

instance (s : String) : Decidable (IsWebAddress s) :=
  inferInstanceAs (Decidable (_ <+: _))

/-! ## Web addresses and the table -/

/-- No web address has angle brackets around it. -/
theorem IsWebAddress.unbracketed {s : String} (h : IsWebAddress s) (htrim : Text.trim s = s) :
    PrefixTable.Unbracketed s := by
  have hsame : Text.trimChars s.toList = s.toList := by
    rw [← String.toList_ofList (l := Text.trimChars s.toList)]
    exact congrArg String.toList htrim
  obtain ⟨rest, hrest⟩ := h
  unfold PrefixTable.Unbracketed
  rw [hsame, ← hrest]
  rfl

/-- A table that does not know the prefix of a trimmed web address expands it to itself or to nothing. -/
theorem PrefixTable.expand_webAddress {table : PrefixTable} {s : String} (h : IsWebAddress s) (htrim : Text.trim s = s)
    (hunknown : table.Unknown s) : table.expand s = .ok none ∨ table.expand s = .ok (some s) := by
  have hself := expand_of_unknown (h.unbracketed htrim) hunknown
  have hsame : String.ofList (Text.trimChars s.toList) = s := htrim
  unfold selfExpansion at hself
  split at hself
  · exact .inr (by rw [hself, hsame])
  · exact .inl hself

/-! ## Literals -/

namespace Property

variable {p : Property} {table : PrefixTable} {d : String}

theorem datatypeIri?_of_isWebAddress (hd : notBlank? p.datatype = some d) (hweb : IsWebAddress d) :
    p.datatypeIri? table = .ok (some d) := by
  unfold datatypeIri?
  rw [hd]
  exact if_pos (List.isPrefixOf_iff_prefix.mpr hweb)

/-- What is no web address is expanded first. -/
theorem datatypeIri?_of_not_isWebAddress (hd : notBlank? p.datatype = some d) (hweb : ¬ IsWebAddress d) :
    p.datatypeIri? table = (table.expand d >>= fun
      | none | some "" => return some d
      | some iri => return notBlank? (some iri)) := by
  unfold datatypeIri?
  rw [hd]
  exact if_neg fun hprefix => hweb (List.isPrefixOf_iff_prefix.mp hprefix)

theorem datatypeIri?_of_expand (hd : notBlank? p.datatype = some d) (hweb : ¬ IsWebAddress d)
    {expansion : Option String} (hexpand : table.expand d = .ok expansion)
    (hshown : ∀ iri, expansion = some iri → Text.isBlank iri = false) :
    p.datatypeIri? table = .ok (some (expansion.getD d)) := by
  rw [datatypeIri?_of_not_isWebAddress hd hweb, hexpand]
  cases expansion with
  | none => rfl
  | some iri =>
    have hiri := hshown iri rfl
    have hne : iri ≠ "" := by
      rintro rfl
      exact absurd hiri (by decide)
    show (match some iri with
      | none | some "" => Except.ok (some d)
      | some iri => Except.ok (notBlank? (some iri))) = Except.ok (some iri)
    split
    · next h => cases h
    · next h => exact absurd (Option.some.inj h) hne
    · next h =>
      cases h
      rw [notBlank?_eq_some.mpr ⟨rfl, hiri⟩]

section

variable [Library]

/-- The literal of the value carries the datatype. It has no room for a language then. -/
def CarriesDatatype (p : Property) (table : PrefixTable) (value iri : String) : Prop :=
  ∃ l, p.literal table value = .ok l ∧ l.annotation = .datatype iri

/-- There is one literal, and it carries one datatype. -/
theorem CarriesDatatype.unique {value iri iri' : String} (h : p.CarriesDatatype table value iri)
    (h' : p.CarriesDatatype table value iri') : iri = iri' := by
  obtain ⟨l, hl, hiri⟩ := h
  obtain ⟨l', hl', hiri'⟩ := h'
  cases hl.symm.trans hl'
  exact Annotation.datatype.inj (hiri.symm.trans hiri')

theorem carriesDatatype_of_datatypeIri? {iri : String} (h : p.datatypeIri? table = .ok (some iri)) (value : String) :
    p.CarriesDatatype table value iri := by
  refine ⟨Literal.typed value iri, ?_, rfl⟩
  rw [literal, h]
  rfl

/-- The literal of a property with a datatype carries what the datatype is resolved to, whatever the value is.

    - A web address is taken as it is written.
    - Any other reference is replaced by its expansion. If it has none, or an empty one, it is taken as it is written, and
      if it cannot be expanded then the literal fails in the same way. The same is true of a web address that is trimmed and
      has no prefix that the table knows.

    An expansion of nothing but blanks is left out. -/
theorem literal_datatype (hd : p.datatype = some d) (hshown : Text.isBlank d = false) (table : PrefixTable)
    (value : String) :
    (IsWebAddress d → p.CarriesDatatype table value d) ∧
    (¬ IsWebAddress d ∨ (Text.trim d = d ∧ table.Unknown d) →
      (∀ e, table.expand d = .error e → p.literal table value = .error e) ∧
      (table.expand d = .ok (some "") → p.CarriesDatatype table value d) ∧
      ∀ expansion, table.expand d = .ok expansion → (∀ iri, expansion = some iri → Text.isBlank iri = false) →
        p.CarriesDatatype table value (expansion.getD d)) := by
  have hsome : notBlank? p.datatype = some d := notBlank?_eq_some.mpr ⟨hd, hshown⟩
  have hwritten : IsWebAddress d → p.CarriesDatatype table value d := fun hweb =>
    carriesDatatype_of_datatypeIri? (datatypeIri?_of_isWebAddress hsome hweb) value
  refine ⟨hwritten, fun hcondition => ?_⟩
  by_cases hweb : IsWebAddress d
  · -- the table is not asked, and would have changed nothing
    obtain ⟨htrim, hunknown⟩ := hcondition.resolve_left (not_not_intro hweb)
    have hexpand := PrefixTable.expand_webAddress hweb htrim hunknown
    refine ⟨fun e he => ?_, fun _ => hwritten hweb, fun expansion hexpansion _ => ?_⟩
    · rcases hexpand with hnone | hsame
      · cases hnone.symm.trans he
      · cases hsame.symm.trans he
    · have hgetD : expansion.getD d = d := by
        rcases hexpand with hnone | hsame
        · cases hnone.symm.trans hexpansion
          rfl
        · cases hsame.symm.trans hexpansion
          rfl
      rw [hgetD]
      exact hwritten hweb
  · refine ⟨fun e he => ?_, fun hempty => ?_, fun expansion hexpansion hnotBlank => ?_⟩
    · rw [literal, datatypeIri?_of_not_isWebAddress hsome hweb, he]
      rfl
    · refine carriesDatatype_of_datatypeIri? ?_ value
      rw [datatypeIri?_of_not_isWebAddress hsome hweb, hempty]
      rfl
    · exact carriesDatatype_of_datatypeIri? (datatypeIri?_of_expand hsome hweb hexpansion hnotBlank) value

end

/-- A property with a datatype as well as a language. -/
def ofDatatype (reference : String) : Property :=
  { predicate := "e:p", datatype := some reference, lang := some "en" }

/-- The namespace of the prefix is put in front, and the datatype wins over the language. -/
theorem literal_datatype_ofTexts :
    Text.isBlank " xsd:gYear" = false ∧ ¬ IsWebAddress " xsd:gYear" ∧
      (PrefixTable.ofTexts [("xsd", "http://e/xsd#")]).expand " xsd:gYear" = .ok (some "http://e/xsd#gYear") ∧
      (ofDatatype " xsd:gYear").CarriesDatatype (.ofTexts [("xsd", "http://e/xsd#")]) "1999" "http://e/xsd#gYear" := by
  have hshown : Text.isBlank " xsd:gYear" = false := by decide
  have hweb : ¬ IsWebAddress " xsd:gYear" := by decide
  have hform : PrefixTable.Unbracketed " xsd:gYear" := by decide
  have hsplit : PrefixTable.splitColon? (Text.trimChars " xsd:gYear".toList) = some ("xsd", "gYear") := by decide
  have hexpand : (PrefixTable.ofTexts [("xsd", "http://e/xsd#")]).expand " xsd:gYear" =
      .ok (some "http://e/xsd#gYear") := by
    rw [PrefixTable.expand_of_namespace hform hsplit rfl]
    exact congrArg (Except.ok ∘ some) (by decide)
  have hiri : ∀ iri, some "http://e/xsd#gYear" = some iri → Text.isBlank iri = false := by
    rintro iri ⟨⟩
    decide
  exact ⟨hshown, hweb, hexpand, ((literal_datatype rfl hshown _ "1999").2 (.inl hweb)).2.2 _ hexpand hiri⟩

/-- A prefix that starts as a web address is not looked up, although the table knows it. -/
theorem literal_ofWebPrefix :
    (PrefixTable.ofTexts [("httpx", "http://e/")]).expand "httpx:T" = .ok (some "http://e/T") ∧
      (ofDatatype "httpx:T").CarriesDatatype (.ofTexts [("httpx", "http://e/")]) "x" "httpx:T" ∧
      ¬ (ofDatatype "httpx:T").CarriesDatatype (.ofTexts [("httpx", "http://e/")]) "x" "http://e/T" := by
  have hform : PrefixTable.Unbracketed "httpx:T" := by decide
  have hsplit : PrefixTable.splitColon? (Text.trimChars "httpx:T".toList) = some ("httpx", "T") := by decide
  have hsome : notBlank? (ofDatatype "httpx:T").datatype = some "httpx:T" := notBlank?_eq_some.mpr ⟨rfl, by decide⟩
  have hcarries : (ofDatatype "httpx:T").CarriesDatatype (.ofTexts [("httpx", "http://e/")]) "x" "httpx:T" :=
    carriesDatatype_of_datatypeIri? (datatypeIri?_of_isWebAddress hsome (by decide)) "x"
  refine ⟨?_, hcarries, ?_⟩
  · rw [PrefixTable.expand_of_namespace hform hsplit rfl]
    exact congrArg (Except.ok ∘ some) (by decide)
  · intro hexpanded
    exact absurd (hcarries.unique hexpanded) (by decide)

end Property

end GraphLift
