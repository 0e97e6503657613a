import GraphLift.Proofs.Json.Names
import GraphLift.Proofs.Template.WellFormed

/-! # Replacing values

    A property may come with a table of replacements. Then its objects come from values that are names in the table, and
    each of them by way of the text that is its target; a value whose target is null, or that is no name in the table,
    has no object.

    * **Groups** (`Property.exists_groups`): every base value has objects of its own, one at most.
    * **Tables** (`Property.applyMap_of_read`): the table as it is read leaves out the names whose target is null, so that
      these are dropped like names that are not there.
    * **Exclusive replacement** (`Property.terms_replaced`) needs a target that is not null. A table without one reads as
      if there were none, and lets every value through (`Property.terms_ofNullTarget`).
-/

namespace GraphLift

open Outcome

/-! ## Objects of a text -/

/-- What a text in its final form is shown as: a literal, a resource, or nothing if it is blank where a resource is to be
    named. -/
inductive Property.Shows [Library] (p : Property) (table : PrefixTable) (s : String) : List Value → Prop where
  | literal {l : Literal} (kind : p.kind = .literal) (made : p.literal table s = .ok l) : Shows p table s [.literal l]
  | resource {identity : Identity} (kind : p.kind = .iri) (shown : Text.isBlank s = false)
      (named : (Identity.ofText (some s)).outcome = .ok identity) : Shows p table s [.resource (.bare identity)]
  | blank (kind : p.kind = .iri) (blank : Text.isBlank s = true) : Shows p table s []

/-- The objects that a text has by way of the format. -/
def Property.Makes [Library] (p : Property) (table : PrefixTable) (f : Finder) (s : String) (objects : List Value) : Prop :=
  ∃ formatted, p.applyFormat f (some s) = .ok (some formatted) ∧ p.Shows table formatted objects

namespace Property

variable [Library] {p : Property} {table : PrefixTable} {f : Finder}

/-- A value is dropped by the format only if it was dropped before. -/
theorem applyFormat_eq_ok {value r : Option String} (h : p.applyFormat f value = .ok r) :
    value = none ∧ r = none ∨ ∃ s formatted, value = some s ∧ r = some formatted := by
  unfold applyFormat at h
  cases value with
  | none =>
    refine .inl ⟨rfl, ?_⟩
    cases hf : notBlank? p.format with
    | none =>
      rw [hf] at h
      cases h
      rfl
    | some format =>
      rw [hf] at h
      cases h
      rfl
  | some s =>
    refine .inr ⟨s, ?_⟩
    split at h
    · next hsome =>
      obtain ⟨expanded, _, h⟩ := bind_eq_ok.mp h
      cases h
      exact ⟨expanded, rfl, rfl⟩
    · cases h
      exact ⟨s, rfl, rfl⟩

/-- The values after replacement and format are shown one by one, without the dropped ones. -/
theorem exists_shown {vs : List Value} (hkind : p.kind ≠ .nodeRef) (h : (p.terms table f).outcome = .ok vs) :
    ∃ (resolved : List (Option String)) (groups : List (List Value)), p.resolvedValues f = .ok resolved ∧
      vs = groups.flatten ∧ List.Forall₂ (fun r group => r.elim (group = []) (p.Shows table · group)) resolved groups := by
  simp only [terms, Traced.outcome_bind, Traced.outcome_lift, bind_eq_ok] at h
  obtain ⟨resolved, hresolved, h⟩ := h
  cases hk : p.kind with
  | nodeRef => exact absurd hk hkind
  | literal =>
    rw [hk] at h
    obtain ⟨groups, hflat, hgroups⟩ := (mapM_eq_ok.mp h).exists_groups
    refine ⟨resolved, groups, hresolved, hflat, hgroups.imp fun r group hgroup => ?_⟩
    cases r with
    | none => exact hgroup
    | some s =>
      obtain ⟨v, hv, rfl⟩ := hgroup
      obtain ⟨l, hl, hv⟩ := bind_eq_ok.mp hv
      cases hv
      exact .literal hk hl
  | iri =>
    rw [hk] at h
    dsimp only at h
    rw [List.filter_filterMap, Traced.outcome_mapM] at h
    obtain ⟨groups, hflat, hgroups⟩ := (mapM_eq_ok.mp h).exists_groups
    refine ⟨resolved, groups, hresolved, hflat, hgroups.imp fun r group hgroup => ?_⟩
    cases r with
    | none => exact hgroup
    | some s =>
      by_cases hblank : Text.isBlank s = true
      · have hnone : (id (some s)).filter (!Text.isBlank ·) = none := by simp [hblank]
        rw [hnone] at hgroup
        cases hgroup
        exact Shows.blank hk hblank
      · have hsome : (id (some s)).filter (!Text.isBlank ·) = some s := by simp [hblank]
        rw [hsome] at hgroup
        obtain ⟨v, hv, rfl⟩ := hgroup
        rw [Traced.outcome_bind] at hv
        obtain ⟨identity, hid, hv⟩ := bind_eq_ok.mp hv
        cases hv
        exact Shows.resource hk (by simpa using hblank) hid

/-- Every base value has a group of objects: none if its replacement is dropped, and otherwise those that the
    replacement has by way of the format. -/
theorem exists_groups {vs : List Value} (hkind : p.kind ≠ .nodeRef) (h : (p.terms table f).outcome = .ok vs) :
    ∃ (bases : List String) (groups : List (List Value)), p.baseValues f = .ok bases ∧ vs = groups.flatten ∧
      List.Forall₂ (fun base group => (p.applyMap (some base)).elim (group = []) (p.Makes table f · group))
        bases groups := by
  obtain ⟨resolved, groups, hresolved, hflat, hshown⟩ := exists_shown hkind h
  obtain ⟨bases, hbases, hformat⟩ := bind_eq_ok.mp hresolved
  refine ⟨bases, groups, hbases, hflat, (mapM_eq_ok.mp hformat).comp hshown fun base r group hr hgroup => ?_⟩
  rcases applyFormat_eq_ok hr with ⟨hnone, rfl⟩ | ⟨s, formatted, hsome, rfl⟩
  · rw [hnone]
    exact hgroup
  · rw [hsome] at hr ⊢
    exact ⟨formatted, hr, hgroup⟩

end Property

/-! ## Tables of replacements -/

namespace Json

theorem names_texts (entries : List (String × Json)) :
    ((entries.filterMap fun e => e.2.asText.map fun s => (e.1, s)).map (·.1)).Sublist (entries.map (·.1)) := by
  induction entries with
  | nil => exact .refl _
  | cons e rest ih =>
    cases he : e.2.asText with
    | none =>
      rw [List.filterMap_cons_none (by rw [he]; rfl)]
      exact ih.cons e.1
    | some s =>
      rw [List.filterMap_cons_some (by rw [he]; rfl)]
      exact ih.cons_cons e.1

/-- The texts of the values in a table, without those that have none. -/
theorem lookup_texts {entries : List (String × Json)} (hnames : (entries.map (·.1)).Nodup) (name : String) :
    lookup name (entries.filterMap fun e => e.2.asText.map fun s => (e.1, s)) = (lookup name entries).bind asText := by
  ext s
  rw [lookup_eq_some (hnames.sublist (names_texts entries)), Option.bind_eq_some_iff]
  simp only [lookup_eq_some hnames, List.mem_filterMap, Option.map_eq_some_iff, Prod.mk.injEq]
  constructor
  · intro h
    obtain ⟨⟨key, v⟩, hmem, t, ht, rfl, rfl⟩ := h
    exact ⟨v, hmem, ht⟩
  · intro h
    obtain ⟨v, hmem, hv⟩ := h
    exact ⟨(name, v), hmem, s, hv, rfl, rfl⟩

theorem exists_asText {v : Json} (h : v ≠ .null) : ∃ s, v.asText = some s := by
  cases v with
  | null => exact absurd rfl h
  | _ => exact ⟨_, rfl⟩

end Json

/-- A property that is read has the targets of its table that are not null. -/
theorem Template.valueMap_of_readProperty {members entries : Members} {key : String} {p : Property}
    (h : readProperty key (.object members) = .ok p) (hmap : Json.field members "map" = .object entries) :
    p.valueMap = entries.filterMap fun e => e.2.asText.map fun s => (e.1, s) := by
  obtain ⟨members', heq, h⟩ := readProperty_eq_ok h
  cases heq
  unfold propertyOfMembers at h
  obtain ⟨predicate, _, h⟩ := bind_eq_ok.mp h
  split at h
  · obtain ⟨kind, _, h⟩ := bind_eq_ok.mp h
    obtain ⟨node, _, h⟩ := bind_eq_ok.mp h
    split at h
    · cases h
    · obtain ⟨paths, _, h⟩ := bind_eq_ok.mp h
      obtain ⟨path, _, h⟩ := bind_eq_ok.mp h
      obtain ⟨format, _, h⟩ := bind_eq_ok.mp h
      obtain ⟨valueMap, hvalueMap, h⟩ := bind_eq_ok.mp h
      obtain ⟨lang, _, h⟩ := bind_eq_ok.mp h
      obtain ⟨datatype, _, h⟩ := bind_eq_ok.mp h
      cases h
      unfold mapMember at hvalueMap
      rw [hmap] at hvalueMap
      cases hvalueMap
      rfl
  · cases h

/-- With a target that is not null, a value is replaced by the text of its target, and dropped if that is null or if
    there is none. -/
theorem Property.applyMap_of_read {members entries : Template.Members} {key : String} {p : Property}
    (h : Template.readProperty key (.object members) = .ok p) (hmap : Json.field members "map" = .object entries)
    (hnames : (entries.map (·.1)).Nodup) (htarget : ∃ e ∈ entries, e.2 ≠ .null) (value : String) :
    p.applyMap (some value) = (Json.lookup value entries).bind Json.asText := by
  have hvalueMap := Template.valueMap_of_readProperty h hmap
  have hne : p.valueMap.isEmpty = false := by
    obtain ⟨e, he, htext⟩ := htarget
    obtain ⟨s, hs⟩ := Json.exists_asText htext
    have hmem : (e.1, s) ∈ p.valueMap := by
      rw [hvalueMap, List.mem_filterMap]
      exact ⟨e, he, by rw [hs]; rfl⟩
    exact List.isEmpty_eq_false_iff.mpr (List.ne_nil_of_mem hmem)
  show (if p.valueMap.isEmpty then some value else Json.lookup value p.valueMap) = _
  rw [hne, hvalueMap]
  exact Json.lookup_texts hnames value

/-! ## Exclusive replacement -/

/-- The members of a property that takes all members of a list, with a table of replacements. -/
def Template.ofReplacements (entries : Members) : Members :=
  [("predicate", .text "http://example.org/p"), ("json", .text "$[*]"), ("multi", .bool true), ("map", .object entries)]

theorem Template.distinct_ofReplacements {entries : Members} (h : (Json.object entries).Distinct) :
    (Json.object (ofReplacements entries)).Distinct := by
  refine .object (by simp [ofReplacements]) fun m hm => ?_
  simp only [ofReplacements, List.mem_cons, List.not_mem_nil, or_false] at hm
  rcases hm with rfl | rfl | rfl | rfl
  · exact .scalar rfl
  · exact .scalar rfl
  · exact .scalar rfl
  · exact h

/-- A list of texts as the document. -/
def Finder.ofTexts (texts : List String) : Finder :=
  ⟨.array (texts.map .text), .array (texts.map .text)⟩

/-- The texts of the members of a list, when it is known which ones these are. -/
theorem Finder.values_children {texts : List String}
    (h : (JsonPath.select [.root, .children] (.array (texts.map .text))).map (fun spots => spots.map (·.value)) =
      some (texts.map .text)) : (Finder.ofTexts texts).values (some "$[*]") = .ok texts := by
  have hblank : Text.isBlank "$[*]" = false := by decide
  have htarget : (Finder.ofTexts texts).target (Text.trim "$[*]") = (.array (texts.map .text), "$[*]") := by rfl
  have htexts : (texts.map Json.text).filterMap Json.asText = texts := by
    rw [List.filterMap_map]
    exact List.filterMap_some
  have hnodes : (Finder.ofTexts texts).nodes (Text.trim "$[*]") = .ok (texts.map .text) :=
    Finder.nodes_of_select htarget JsonPath.parse?_children h
  unfold Finder.values
  dsimp only
  rw [hblank, hnodes]
  exact congrArg Except.ok htexts

namespace Property

/-- The property as it is read. -/
def ofReplacements (valueMap : List (String × String)) : Property :=
  { predicate := "http://example.org/p", path := some "$[*]", multi := true, valueMap }

theorem baseValues_ofReplacements {texts : List String}
    (h : (Finder.ofTexts texts).values (some "$[*]") = .ok texts) (valueMap : List (String × String)) :
    (ofReplacements valueMap).baseValues (.ofTexts texts) = .ok texts := by
  show ((Finder.ofTexts texts).values (some "$[*]") >>= fun found => pure (if true then found else found.take 1)) = _
  rw [h]
  rfl

/-- **Replacement is exclusive.** A property is read with a table of replacements that has a target. Then every base value
    has objects of its own: by way of the text of its target if the table gives it one, and none if its target is null or
    if it is no name of the table. -/
theorem terms_replaced [Library] (key : String) (members entries : Template.Members) (p : Property) (table : PrefixTable)
    (f : Finder) (vs : List Value) (hdistinct : (Json.object members).Distinct)
    (hread : Template.readProperty key (.object members) = .ok p) (hkind : p.kind ≠ .nodeRef)
    (hmap : Json.field members "map" = .object entries) (htarget : ∃ e ∈ entries, e.2 ≠ .null)
    (h : (p.terms table f).outcome = .ok vs) :
    ∃ (bases : List String) (groups : List (List Value)), p.baseValues f = .ok bases ∧ vs = groups.flatten ∧
      List.Forall₂ (fun base group =>
        (∀ target s, (base, target) ∈ entries → target.asText = some s → p.Makes table f s group) ∧
          ((base, .null) ∈ entries ∨ base ∉ entries.map (·.1) → group = [])) bases groups := by
  have hnames : (entries.map (·.1)).Nodup := by
    have hentries := hdistinct.field "map"
    rw [hmap] at hentries
    exact hentries.names
  obtain ⟨bases, groups, hbases, hflat, hgroups⟩ := exists_groups hkind h
  refine ⟨bases, groups, hbases, hflat, hgroups.imp fun base group hgroup => ?_⟩
  rw [applyMap_of_read hread hmap hnames htarget] at hgroup
  refine ⟨?_, ?_⟩
  · intro target s hmem hs
    rw [(Json.lookup_eq_some hnames).mpr hmem, Option.bind_some, hs] at hgroup
    exact hgroup
  · intro hdropped
    have hnone : (Json.lookup base entries).bind Json.asText = none := by
      rcases hdropped with hnull | hmissing
      · rw [(Json.lookup_eq_some hnames).mpr hnull]
        rfl
      · cases hlookup : Json.lookup base entries with
        | none => rfl
        | some target =>
          have hmem := (Json.lookup_eq_some hnames).mp hlookup
          exact absurd (List.mem_map.mpr ⟨_, hmem, rfl⟩) hmissing
    rw [hnone] at hgroup
    exact hgroup

/-- Of three values one is replaced, one is dropped as its target is null, and one as it is no name of the table. -/
theorem terms_replaced_ofTexts :
    ∃ (p : Property) (group : List Value),
      Template.readProperty "k" (.object (Template.ofReplacements [("x", .text "one"), ("y", .null)])) = .ok p ∧
      p.baseValues (.ofTexts ["x", "y", "z"]) = .ok ["x", "y", "z"] ∧
      p.Makes ⟨[]⟩ (.ofTexts ["x", "y", "z"]) "one" group ∧
      (p.terms ⟨[]⟩ (.ofTexts ["x", "y", "z"])).outcome = .ok group := by
  have hvalues : (Finder.ofTexts ["x", "y", "z"]).values (some "$[*]") = .ok ["x", "y", "z"] := Finder.values_children rfl
  have hbases := baseValues_ofReplacements hvalues [("x", "one")]
  have hread : Template.readProperty "k" (.object (Template.ofReplacements [("x", .text "one"), ("y", .null)])) =
      .ok (ofReplacements [("x", "one")]) := rfl
  have hterms : ((ofReplacements [("x", "one")]).terms ⟨[]⟩ (.ofTexts ["x", "y", "z"])).outcome =
      .ok [.literal (.plain "one")] := by
    unfold terms resolvedValues
    rw [hbases]
    rfl
  have hdistinct : (Json.object (Template.ofReplacements [("x", .text "one"), ("y", .null)])).Distinct := by
    refine Template.distinct_ofReplacements (.object (by simp) fun m hm => ?_)
    rcases List.mem_pair.mp hm with rfl | rfl
    · exact .scalar rfl
    · exact .scalar rfl
  obtain ⟨bases, groups, hbases', hflat, hgroups⟩ := terms_replaced "k" _ [("x", .text "one"), ("y", .null)] _ ⟨[]⟩
    (.ofTexts ["x", "y", "z"]) _ hdistinct hread (by decide) rfl ⟨_, List.mem_cons_self, by simp⟩ hterms
  cases hbases.symm.trans hbases'
  -- one group for each of the three values
  cases hgroups with
  | @cons _ x _ _ hx hgroups =>
    cases hgroups with
    | @cons _ y _ _ hy hgroups =>
      cases hgroups with
      | @cons _ z _ _ hz hgroups =>
        cases hgroups
        have hone := hx.1 (.text "one") "one" List.mem_cons_self rfl
        have hnoY : y = [] := hy.2 (.inl (by simp))
        have hnoZ : z = [] := hz.2 (.inr (by simp))
        subst hnoY hnoZ
        refine ⟨_, x, hread, hbases, hone, ?_⟩
        rw [hterms, hflat]
        simp

/-- A table all of whose targets are null drops nothing: every base value has objects as it is. -/
theorem terms_nullTargets [Library] (key : String) (members entries : Template.Members) (p : Property) (table : PrefixTable)
    (f : Finder) (vs : List Value) (hread : Template.readProperty key (.object members) = .ok p)
    (hkind : p.kind ≠ .nodeRef) (hmap : Json.field members "map" = .object entries)
    (hnull : ∀ e ∈ entries, e.2 = .null) (h : (p.terms table f).outcome = .ok vs) :
    ∃ (bases : List String) (groups : List (List Value)), p.baseValues f = .ok bases ∧ vs = groups.flatten ∧
      List.Forall₂ (p.Makes table f) bases groups := by
  have hempty : p.valueMap = [] := by
    rw [Template.valueMap_of_readProperty hread hmap, List.filterMap_eq_nil_iff]
    intro e he
    rw [hnull e he]
    rfl
  obtain ⟨bases, groups, hbases, hflat, hgroups⟩ := exists_groups hkind h
  refine ⟨bases, groups, hbases, hflat, hgroups.imp fun base group hgroup => ?_⟩
  have hthrough : p.applyMap (some base) = some base := by
    show (if p.valueMap.isEmpty then some base else Json.lookup base p.valueMap) = _
    rw [hempty]
    rfl
  rw [hthrough] at hgroup
  exact hgroup

/-- The only target is null, and yet its value has an object. -/
theorem terms_ofNullTarget :
    ∃ p, Template.readProperty "k" (.object (Template.ofReplacements [("x", .null)])) = .ok p ∧
      p.baseValues (.ofTexts ["x"]) = .ok ["x"] ∧
      (p.terms ⟨[]⟩ (.ofTexts ["x"])).outcome = .ok [.literal (.plain "x")] := by
  have hvalues : (Finder.ofTexts ["x"]).values (some "$[*]") = .ok ["x"] := Finder.values_children rfl
  have hbases := baseValues_ofReplacements hvalues []
  refine ⟨ofReplacements [], rfl, hbases, ?_⟩
  unfold terms resolvedValues
  rw [hbases]
  rfl

end Property

end GraphLift
