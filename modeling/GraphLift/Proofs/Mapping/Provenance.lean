import GraphLift.Proofs.Json.Names
import GraphLift.Proofs.Mapping.Lookups
import GraphLift.Proofs.Mapping.Naming
import GraphLift.Proofs.Mapping.Replacement
import GraphLift.Proofs.MediaType
import GraphLift.Proofs.Pattern.Expansion
import GraphLift.Proofs.Turtle.Totality

/-! # Where the characters of names come from

    A name is put together from texts of the template and texts of the document. On the way these are trimmed, cut, put in
    lower case and joined, and nothing else is done to them.

    * **Drawing** (`DrawnFrom`): the signs of a text, small letters apart, come from some texts. Everything that is done to
      names draws on what was there before.
    * **Sources** (`ResourceTemplate.NameSource`): constants, replacements, what stands in patterns, and what the document
      has along the paths of naming rules.
    * **Names** (`Mapper.Derives.drawn`): every name that a template gives draws on the sources in one of the scopes.
    * **Writing** (`Mapper.mapInto_names_drawn`): names can be written wherever the sources can. Nothing else keeps a character
      out of them, since only the scheme of a text decides whether it is a name (`Identity.ofText_eq_iri_iff`).
-/

namespace GraphLift

open Outcome Text

/-! ## Drawing on texts -/

/-- Every character of the text that is no small letter is in one of the texts of `S`. -/
def DrawnFrom (S : String → Prop) (s : String) : Prop :=
  ∀ c ∈ s.toList, unusedRanges.contains c = true → ∃ t, S t ∧ c ∈ t.toList

namespace DrawnFrom

variable {S S' : String → Prop} {s t : String}

theorem of_source (h : S s) : DrawnFrom S s :=
  fun _ hc _ => ⟨s, h, hc⟩

theorem empty : DrawnFrom S "" := by
  intro c hc
  cases hc

theorem mono (h : DrawnFrom S s) (hsub : ∀ t, S t → S' t) : DrawnFrom S' s := by
  intro c hc hsign
  obtain ⟨t, ht, hmem⟩ := h c hc hsign
  exact ⟨t, hsub t ht, hmem⟩

/-- A text with no more signs than another one draws on the same texts. -/
theorem of_subset (h : DrawnFrom S t) (hsub : ∀ c ∈ s.toList, unusedRanges.contains c = true → c ∈ t.toList) :
    DrawnFrom S s :=
  fun c hc hsign => h c (hsub c hc hsign) hsign

theorem join {texts : List String} (h : ∀ t ∈ texts, DrawnFrom S t) : DrawnFrom S (String.join texts) := by
  induction texts with
  | nil => exact empty
  | cons t rest ih =>
    obtain ⟨ht, hrest⟩ := List.forall_mem_cons.mp h
    intro c hc hsign
    rw [String.join_cons, String.toList_append] at hc
    rcases List.mem_append.mp hc with hc | hc
    · exact ht c hc hsign
    · exact ih hrest c hc hsign

end DrawnFrom

/-! ## Changes of texts -/

theorem MediaType.mem_of_mem_stripParameters {s : String} {c : Char} (h : c ∈ (stripParameters s).toList) :
    c ∈ s.toList := by
  rw [stripParameters_eq] at h
  have hcut := mem_of_mem_trim h
  rw [String.toList_ofList] at hcut
  exact (List.takeWhile_prefix _).subset hcut

/-- A plain form has no sign that the media type does not have. -/
theorem MediaType.mem_of_mem_normalize {s : String} {c : Char} (hsign : unusedRanges.contains c = true)
    (h : c ∈ (normalize s).toList) : c ∈ s.toList := by
  rw [normalize_eq] at h
  exact mem_of_mem_stripParameters (mem_of_mem_lowerCase hsign h)

/-! ## Characters that no written IRI may hold -/

theorem isWritable_iff {s : String} : isWritable s = true ↔ ∀ c ∈ s.toList, c ∉ refusedInIri := by
  unfold isWritable
  simp

/-- They all are signs, so that they are no lower-case forms of anything else. -/
theorem unused_of_mem_refusedInIri {c : Char} (h : c ∈ refusedInIri) : unusedRanges.contains c = true := by
  have hall : refusedInIri.all unusedRanges.contains = true := by decide
  exact List.all_eq_true.mp hall c h

/-! ## Patterns -/

namespace Pattern

variable [Library] {S : String → Prop} {f : Finder} {indexed : List String} {pattern s : String}

/-- A text that a piece of the pattern becomes, with whatever value. -/
def HasPart (f : Finder) (indexed : List String) (pattern s : String) : Prop :=
  ∃ p ∈ pieces pattern, p ≠ .marker valueWord ∧ Becomes { finder := some f, indexed } p s

theorem drawn_expandPieces {b : Bindings} {ps : List Piece} (hparts : ∀ p ∈ ps, ∀ t, Becomes b p t → DrawnFrom S t)
    (h : expandPieces b ps = .ok s) : DrawnFrom S s := by
  obtain ⟨texts, htexts, rfl⟩ := expandPieces_eq_ok_iff.mp h
  refine DrawnFrom.join fun t ht => ?_
  obtain ⟨i, hi⟩ := List.getElem?_of_mem ht
  obtain ⟨p, hp, hbecomes⟩ := htexts.exists_left hi
  exact hparts p (List.mem_of_getElem? hp) t hbecomes

/-- What is filled in with a value draws on the parts of the pattern and on what the value draws on. -/
theorem drawn_expand {value : String} (hparts : ∀ t, HasPart f indexed pattern t → S t) (hvalue : DrawnFrom S value)
    (h : expand ⟨some f, some value, indexed⟩ pattern = .ok s) : DrawnFrom S s := by
  refine drawn_expandPieces (fun p hp t hbecomes => ?_) h
  by_cases hword : p = .marker valueWord
  · rw [hword] at hbecomes
    have ht : t = value := by
      have heq := expandPiece_eq_ok_iff.mpr hbecomes
      change substitute _ valueWord = .ok t at heq
      rw [substitute_valueWord] at heq
      exact (Except.ok.inj heq).symm
    rw [ht]
    exact hvalue
  · -- the other pieces become the same without a value
    have hsame := expandPiece_eq_ok_iff.mpr hbecomes
    rw [expandPiece_eq_of_ne hword (some value) none] at hsame
    exact .of_source (hparts t ⟨p, hp, hword, expandPiece_eq_ok_iff.mp hsame⟩)

end Pattern

/-! ## Sources -/

section

variable [Library]

/-- The texts that the name of a subject draws on. -/
inductive SubjectRule.Source (r : SubjectRule) (f : Finder) : String → Prop where
  | const {s : String} (const : r.const = some s) : Source r f s
  | template {pattern s : String} {p : Pattern.Piece} (template : r.template = some pattern)
      (piece : p ∈ Pattern.pieces pattern) (becomes : Pattern.Becomes { finder := some f } p s) : Source r f s
  | format {pattern s : String} (format : r.format = some pattern) (part : Pattern.HasPart f [] pattern s) : Source r f s
  | found {s : String} (found : f.first r.path = .ok (some s)) : Source r f s

/-- The texts that the names of the instances of a node template draw on. -/
inductive NodeTemplate.Source (n : NodeTemplate) (f : Finder) : String → Prop where
  | const {s : String} (const : n.const = some s) : Source n f s
  | target {key s : String} (target : (key, s) ∈ n.valueMap) : Source n f s
  | format {pattern s : String} (format : n.format = some pattern) (part : Pattern.HasPart f [] pattern s) : Source n f s
  | found {texts : List String} {s : String} (values : f.values n.path = .ok texts) (found : s ∈ texts) : Source n f s

/-- The texts that the values of a property draw on. -/
inductive Property.Source (p : Property) (f : Finder) : String → Prop where
  | const {s : String} (const : p.const = some s) : Source p f s
  | target {key s : String} (target : (key, s) ∈ p.valueMap) : Source p f s
  | format {pattern s : String} (format : p.format = some pattern)
      (part : Pattern.HasPart f p.indexedPaths pattern s) : Source p f s
  | found {texts : List String} {s : String} (values : f.values p.path = .ok texts) (found : s ∈ texts) : Source p f s

/-- The texts of a template and of a scope that names draw on: those of the subject, of node templates that are not
    anonymous, and of properties whose values are resources. -/
inductive ResourceTemplate.NameSource (t : ResourceTemplate) (f : Finder) : String → Prop where
  | subject {s : String} (source : t.subject.Source f s) : NameSource t f s
  | node {n : NodeTemplate} {s : String} (node : n ∈ t.nodes) (kind : n.kind = .iri) (source : n.Source f s) :
      NameSource t f s
  | property {key s : String} {p : Property} (property : (key, p) ∈ t.properties) (kind : p.kind = .iri)
      (source : p.Source f s) : NameSource t f s
  | inner {n : NodeTemplate} {key s : String} {p : Property} (node : n ∈ t.nodes) (property : (key, p) ∈ n.properties)
      (kind : p.kind = .iri) (source : p.Source f s) : NameSource t f s

/-! ## Names -/

omit [Library] in
/-- A text gives an IRI if and only if it is that IRI. Its scheme decides, whatever comes behind the colon. -/
theorem Identity.ofText_eq_iri_iff {text : Option String} {s : String} :
    (ofText text).outcome = .ok (.iri s) ↔ text = some s ∧ Iri.Absolute s := by
  constructor
  · intro h
    refine ⟨?_, wellNamed_ofText h s rfl⟩
    unfold ofText at h
    split at h
    · cases h
    · split at h
      · cases h
      · split at h
        · cases h
          rfl
        · cases h
  · intro h
    obtain ⟨rfl, habsolute⟩ := h
    have hshown : ¬ Text.isBlank s = true := by
      rw [habsolute.not_blank]
      exact Bool.false_ne_true
    unfold ofText
    dsimp only
    rw [if_neg hshown, if_pos (Iri.isAbsolute_iff.mpr habsolute)]
    rfl

namespace SubjectRule

variable {r : SubjectRule} {f : Finder} {s : String}

theorem drawn_fromTemplate (h : r.fromTemplate f = .ok (some s)) : DrawnFrom (r.Source f) s := by
  unfold fromTemplate at h
  split at h
  · cases h
  · next pattern hpattern =>
    obtain ⟨expanded, hexpanded, h⟩ := bind_eq_ok.mp h
    cases h
    exact Pattern.drawn_expandPieces (fun p hp t ht => .of_source (.template hpattern hp ht)) hexpanded

theorem drawn_fromFormat (h : r.fromFormat f = .ok (some s)) : DrawnFrom (r.Source f) s := by
  unfold fromFormat at h
  split at h
  · next pattern path hpattern hpath =>
    obtain ⟨found, hfound, h⟩ := bind_eq_ok.mp h
    cases found with
    | none => cases h
    | some v =>
      obtain ⟨expanded, hexpanded, h⟩ := bind_eq_ok.mp h
      cases h
      rw [← hpath] at hfound
      exact Pattern.drawn_expand (fun t ht => .format hpattern ht) (.of_source (.found hfound)) hexpanded
  · cases h

theorem drawn_text (h : r.text f = .ok (some s)) : DrawnFrom (r.Source f) s := by
  unfold SubjectRule.text at h
  cases hconst : notBlank? r.const with
  | some t =>
    rw [hconst] at h
    cases h
    exact .of_source (.const (notBlank?_eq_some.mp hconst).1)
  | none =>
    rw [hconst] at h
    obtain ⟨templated, htemplated, h⟩ := bind_eq_ok.mp h
    cases templated with
    | some t =>
      cases h
      exact drawn_fromTemplate htemplated
    | none =>
      obtain ⟨formatted, hformatted, h⟩ := bind_eq_ok.mp h
      cases formatted with
      | some t =>
        cases h
        exact drawn_fromFormat hformatted
      | none => exact .of_source (.found h)

/-- The name of a subject draws on the sources of its rule. -/
theorem drawn_identity (h : (r.identity f).outcome = .ok (.iri s)) : DrawnFrom (r.Source f) s := by
  rw [identity, Traced.outcome_bind] at h
  obtain ⟨text, htext, h⟩ := bind_eq_ok.mp h
  rw [(Identity.ofText_eq_iri_iff.mp h).1] at htext
  exact drawn_text htext

end SubjectRule

namespace NodeTemplate

variable {n : NodeTemplate} {f : Finder} {base : Option String} {s : String}

/-- The base value of an instance comes from the path of its node template. -/
theorem found_of_mem_candidates {bases : List (Option String)} {b : String} (h : n.candidates f = .ok bases)
    (hb : some b ∈ bases) : n.Source f b := by
  unfold candidates at h
  split at h
  · cases h
    cases List.mem_singleton.mp hb
  · split at h
    · cases h
      cases List.mem_singleton.mp hb
    · obtain ⟨texts, htexts, h⟩ := bind_eq_ok.mp h
      cases h
      obtain ⟨b', hb', heq⟩ := List.mem_map.mp hb
      cases heq
      refine .found htexts ?_
      split at hb'
      · exact hb'
      · exact List.mem_of_mem_take hb'

theorem target_of_replacement {b : String} (h : n.replacement b = some s) : n.Source f s := by
  unfold replacement at h
  rcases Option.or_eq_some_iff.mp h with h | ⟨_, h⟩
  · exact .target (Json.mem_of_lookup h)
  · exact .target (Json.mem_of_lookup h)

/-- A format is filled in with the plain form of the base value, which draws on what the base value does. -/
theorem drawn_fromFormat (hbase : ∀ b, base = some b → DrawnFrom (n.Source f) b)
    (h : n.fromFormat base f = .ok (some s)) : DrawnFrom (n.Source f) s := by
  unfold fromFormat at h
  split at h
  · cases h
  · next format hformat =>
    obtain ⟨expanded, hexpanded, h⟩ := bind_eq_ok.mp h
    cases h
    have hplain : DrawnFrom (n.Source f) ((base.map MediaType.normalize).getD "") := by
      cases base with
      | none => exact .empty
      | some b =>
        rw [Option.map_some, Option.getD_some]
        intro c hc hsign
        have hin : c ∈ b.toList := MediaType.mem_of_mem_normalize hsign hc
        exact hbase b rfl c hin hsign
    exact Pattern.drawn_expand (fun t ht => .format (notBlank?_eq_some.mp hformat).1 ht) hplain hexpanded

/-- As far as the base value decides, the name is a replacement, the filled-in format, or the base value. -/
theorem drawn_fromBase (hbase : ∀ b, base = some b → DrawnFrom (n.Source f) b) (h : n.fromBase base f = .ok (some s)) :
    DrawnFrom (n.Source f) s := by
  have hreplaced : ∀ t, base.bind n.replacement = some t → DrawnFrom (n.Source f) t := by
    intro t ht
    obtain ⟨b, _, ht⟩ := Option.bind_eq_some_iff.mp ht
    exact .of_source (target_of_replacement ht)
  -- whatever is found before the base value is tried
  have hchosen : ∀ formatted : Option String, (∀ t, formatted = some t → DrawnFrom (n.Source f) t) →
      (if Text.isMissing formatted && base.any Iri.isAbsolute then base else formatted) = some s →
      DrawnFrom (n.Source f) s := by
    intro formatted hformatted hs
    split at hs
    · exact hbase s hs
    · exact hformatted s hs
  unfold fromBase at h
  dsimp only at h
  split at h
  · obtain ⟨formatted, hformatted, h⟩ := bind_eq_ok.mp h
    obtain ⟨filled, hfilled, hformatted⟩ := bind_eq_ok.mp hformatted
    cases hformatted
    refine hchosen _ (fun t ht => ?_) (Except.ok.inj h)
    rcases Option.or_eq_some_iff.mp ht with ht | ⟨_, ht⟩
    · rw [ht] at hfilled
      exact drawn_fromFormat hbase hfilled
    · exact hreplaced t ht
  · exact hchosen _ hreplaced (Except.ok.inj h)

/-- The base value is trimmed before anything else is done with it. -/
theorem drawn_iriFor (hbase : ∀ b, base = some b → n.Source f b) (h : (n.iriFor base f).outcome = .ok (some s)) :
    DrawnFrom (n.Source f) s := by
  unfold iriFor at h
  cases hconst : notBlank? n.const with
  | some t =>
    rw [hconst] at h
    cases h
    exact .of_source (.const (notBlank?_eq_some.mp hconst).1)
  | none =>
    rw [hconst] at h
    simp only [Traced.outcome_bind, Traced.outcome_lift] at h
    obtain ⟨iri, hiri, h⟩ := bind_eq_ok.mp h
    -- it is reported if there is none
    have hsame : iri = some s := by
      split at h
      · exact Except.ok.inj h
      · exact Except.ok.inj h
    rw [hsame] at hiri
    apply drawn_fromBase _ hiri
    intro b hb
    obtain ⟨b', hb', rfl⟩ := Option.map_eq_some_iff.mp hb
    exact (DrawnFrom.of_source (hbase b' hb')).of_subset fun c hc _ => mem_of_mem_trim hc

/-- The name of an instance draws on the sources of its node template. -/
theorem drawn_identify (hbase : ∀ b, base = some b → n.Source f b) (h : (n.identify base f).outcome = .ok (.iri s)) :
    n.kind = .iri ∧ DrawnFrom (n.Source f) s := by
  unfold identify at h
  cases hkind : n.kind with
  | anonymous =>
    rw [hkind] at h
    cases h
  | iri =>
    rw [hkind, Traced.outcome_bind] at h
    obtain ⟨text, htext, h⟩ := bind_eq_ok.mp h
    rw [(Identity.ofText_eq_iri_iff.mp h).1] at htext
    exact ⟨rfl, drawn_iriFor hbase htext⟩

end NodeTemplate

namespace Property

variable {p : Property} {table : PrefixTable} {f : Finder} {s : String}

theorem source_of_mem_baseValues {bases : List String} (h : p.baseValues f = .ok bases) {b : String} (hb : b ∈ bases) :
    p.Source f b ∨ b = "" := by
  unfold baseValues at h
  split at h
  · next hconst =>
    cases h
    rw [List.mem_singleton.mp hb]
    exact .inl (.const hconst)
  · next path hconst hpath =>
    obtain ⟨texts, htexts, h⟩ := bind_eq_ok.mp h
    cases h
    rw [← hpath] at htexts
    refine .inl (.found htexts ?_)
    split at hb
    · exact hb
    · exact List.mem_of_mem_take hb
  · cases h
    split at hb
    · cases hb
    · exact .inr (List.mem_singleton.mp hb)

theorem drawn_applyMap {b v : String} (hb : DrawnFrom (p.Source f) b) (h : p.applyMap (some b) = some v) :
    DrawnFrom (p.Source f) v := by
  unfold applyMap at h
  dsimp only [Option.bind] at h
  split at h
  · cases h
    exact hb
  · exact .of_source (.target (Json.mem_of_lookup h))

theorem drawn_applyFormat {v formatted : String} (hv : DrawnFrom (p.Source f) v)
    (h : p.applyFormat f (some v) = .ok (some formatted)) : DrawnFrom (p.Source f) formatted := by
  unfold applyFormat at h
  split at h
  · next format _ hformat heq =>
    cases heq
    obtain ⟨expanded, hexpanded, h⟩ := bind_eq_ok.mp h
    cases h
    exact Pattern.drawn_expand (fun t ht => .format (notBlank?_eq_some.mp hformat).1 ht) hv hexpanded
  · cases h
    exact hv

/-- The resources among the values of a property are named by texts that draw on its sources. -/
theorem drawn_terms {vs : List Value} {d : Description} (h : (p.terms table f).outcome = .ok vs) (hd : .resource d ∈ vs)
    (hs : d.identity = .iri s) : p.kind = .iri ∧ DrawnFrom (p.Source f) s := by
  have hkind : p.kind ≠ .nodeRef := by
    intro hkind
    exact terms_ne_ok hkind h
  obtain ⟨bases, groups, hbases, rfl, hgroups⟩ := exists_groups hkind h
  obtain ⟨group, hgroup, hd⟩ := List.mem_flatten.mp hd
  obtain ⟨i, hi⟩ := List.getElem?_of_mem hgroup
  obtain ⟨b, hb, hmade⟩ := hgroups.exists_left hi
  have hbase : DrawnFrom (p.Source f) b := by
    rcases source_of_mem_baseValues hbases (List.mem_of_getElem? hb) with hsource | rfl
    · exact .of_source hsource
    · exact .empty
  cases hmap : p.applyMap (some b) with
  | none =>
    rw [hmap] at hmade
    have hnone : group = [] := hmade
    rw [hnone] at hd
    cases hd
  | some v =>
    rw [hmap] at hmade
    obtain ⟨formatted, hformatted, hshown⟩ := hmade
    cases hshown with
    | literal => simp at hd
    | blank => cases hd
    | @resource identity kind shown named =>
      cases List.mem_singleton.mp hd
      have hidentity : identity = .iri s := hs
      rw [hidentity] at named
      cases (Identity.ofText_eq_iri_iff.mp named).1
      exact ⟨kind, drawn_applyFormat (drawn_applyMap hbase hmap) hformatted⟩

end Property

end

/-! ## Mapping -/

/-- The IRI names the subject of the triple, or its object unless the triple gives a type. -/
def Triple.Names (t : Triple) (s : String) : Prop :=
  t.subject = .iri s ∨ t.predicate ≠ rdfType ∧ t.object = .node (.iri s)

theorem Triple.WellNamed.absolute {t : Triple} (h : t.WellNamed) {s : String} (hs : t.Names s) : Iri.Absolute s := by
  have hnode : (Node.iri s).WellNamed := by
    rcases hs with hs | ⟨hpredicate, hs⟩
    · rw [← hs]
      exact h.1
    · exact h.2 hpredicate _ hs
  cases hnode with
  | iri absolute => exact absolute

theorem Identity.eq_iri_of_nodeAt {i : Identity} {ν : Place → Nat} {p : Place} {s : String}
    (h : i.nodeAt ν p = .iri s) : i = .iri s := by
  cases i with
  | fresh => cases h
  | iri s' =>
    cases h
    rfl

namespace Mapper

section

variable [Library] {m : Mapper} {scopes : List Finder} {ν : Place → Nat}

theorem Occurs.scope_mem {r : Occurrence} (h : m.Occurs scopes r) : r.scope ∈ scopes := by
  induction h with
  | subject scope _ => exact List.mem_of_getElem? scope
  | within _ _ inner ih =>
    cases inner with
    | intro => exact ih

/-- The properties of an occurrence are those of the template, or of one of its node templates. -/
theorem Occurs.properties_of {r : Occurrence} (h : m.Occurs scopes r) :
    r.properties = m.template.properties ∨ ∃ n ∈ m.template.nodes, r.properties = n.properties := by
  cases h with
  | subject => exact .inl rfl
  | within _ _ inner =>
    cases inner with
    | intro _ node _ _ _ =>
      exact .inr ⟨_, ResourceTemplate.mem_of_referred node, rfl⟩

/-- At every depth, the name of what a template describes draws on the sources in its scope. -/
theorem Occurs.drawn {r : Occurrence} (h : m.Occurs scopes r) {s : String} (hs : r.identity = .iri s) :
    DrawnFrom (m.template.NameSource r.scope) s := by
  cases h with
  | @subject i f identity _ identified =>
    have hidentity : identity = .iri s := hs
    rw [hidentity] at identified
    exact (SubjectRule.drawn_identity identified).mono fun t ht => .subject ht
  | @within outer r j k predicate p _ _ inner =>
    cases inner with
    | @intro n bases base identity _ node candidates candidate identified =>
      have hmem : n ∈ m.template.nodes := ResourceTemplate.mem_of_referred node
      have hidentity : identity = .iri s := hs
      rw [hidentity] at identified
      have hbase : ∀ b, base = some b → n.Source outer.scope b := by
        intro b hb
        rw [hb] at candidate
        exact NodeTemplate.found_of_mem_candidates candidates (List.mem_of_getElem? candidate)
      obtain ⟨hkind, hdrawn⟩ := NodeTemplate.drawn_identify hbase identified
      exact hdrawn.mono fun t ht => .node hmem hkind ht

/-- The resources among the values of the properties of an occurrence have names that draw on the sources in its scope. -/
theorem Occurs.drawn_value {r : Occurrence} (h : m.Occurs scopes r) {j : Nat} {predicate : String} {p : Property}
    (hp : (m.table.expandable r.properties)[j]? = some (predicate, p)) {vs : List Value} {d : Description}
    (hvs : (p.terms m.table r.scope).outcome = .ok vs) (hd : .resource d ∈ vs) {s : String} (hs : d.identity = .iri s) :
    DrawnFrom (m.template.NameSource r.scope) s := by
  obtain ⟨hkind, hdrawn⟩ := Property.drawn_terms hvs hd hs
  obtain ⟨key, hkey, _⟩ := PrefixTable.mem_expandable.mp (List.mem_of_getElem? hp)
  rcases h.properties_of with hof | ⟨n, hn, hof⟩
  · rw [hof] at hkey
    exact hdrawn.mono fun t ht => .property hkey hkind ht
  · rw [hof] at hkey
    exact hdrawn.mono fun t ht => .inner hn hkey hkind ht

/-- What a template derives is named by texts that draw on the sources in one of the scopes. -/
theorem Derives.drawn {t : Triple} (h : m.Derives scopes ν t) {s : String} (hs : t.Names s) :
    ∃ f ∈ scopes, DrawnFrom (m.template.NameSource f) s := by
  -- the subject is an occurrence, with whatever the triple says of it
  have hsubject : ∀ r, m.Occurs scopes r → r.node ν = .iri s →
      ∃ f ∈ scopes, DrawnFrom (m.template.NameSource f) s := by
    intro r hr hnode
    exact ⟨r.scope, hr.scope_mem, hr.drawn (Identity.eq_iri_of_nodeAt hnode)⟩
  cases h with
  | @type r reference type occurs _ _ =>
    rcases hs with hs | ⟨hpredicate, _⟩
    · exact hsubject r occurs hs
    · exact absurd rfl hpredicate
  | @value r j k predicate p values v occurs property _ evaluated value =>
    rcases hs with hs | ⟨_, hs⟩
    · exact hsubject r occurs hs
    · cases v with
      | literal l => cases hs
      | resource d =>
        have hidentity := Identity.eq_iri_of_nodeAt (Term.node.inj hs)
        have hdrawn := occurs.drawn_value property evaluated (List.mem_of_getElem? value) hidentity
        exact ⟨r.scope, occurs.scope_mem, hdrawn⟩
  | @reference r r' j k predicate p occurs property inner =>
    rcases hs with hs | ⟨_, hs⟩
    · exact hsubject r occurs hs
    · exact hsubject r' (.within occurs property inner) (Term.node.inj hs)

/-- **Names are as writable as what they are made of.** What mapping adds to a graph is named by absolute IRIs, types
    apart. A character of such a name that no written IRI may hold comes from a source in one of the scopes. If all
    sources in that scope are writable, the name is. -/
theorem mapInto_names_drawn (m : Mapper) (g : Graph) (next : Nat) (document : Json) (r : Mapped)
    (h : (m.mapInto g next document).outcome = .ok r) :
    ∃ (scopes : List Finder) (added : List Triple), m.AreScopes document scopes ∧ r.graph.triples = g.triples ++ added ∧
      ∀ t ∈ added, ∀ s, t.Names s → Iri.Absolute s ∧ ∃ f ∈ scopes,
        (∀ c ∈ s.toList, c ∈ refusedInIri → ∃ text, m.template.NameSource f text ∧ c ∈ text.toList) ∧
        ((∀ text, m.template.NameSource f text → isWritable text = true) → isWritable s = true) := by
  obtain ⟨scopes, ν, hscopes, _, _, _, _, ⟨added, heq, hadded⟩, _, _⟩ := mapInto_derives m g next document r h
  refine ⟨scopes, added, hscopes, heq, ?_⟩
  intro t ht s hs
  have hderives := hadded t ht
  obtain ⟨f, hf, hdrawn⟩ := hderives.drawn hs
  have hrefused : ∀ c ∈ s.toList, c ∈ refusedInIri → ∃ text, m.template.NameSource f text ∧ c ∈ text.toList := by
    intro c hc hrefused
    exact hdrawn c hc (unused_of_mem_refusedInIri hrefused)
  refine ⟨hderives.wellNamed.absolute hs, f, hf, hrefused, ?_⟩
  intro hsources
  apply isWritable_iff.mpr
  intro c hc hmem
  obtain ⟨text, htext, hin⟩ := hrefused c hc hmem
  exact isWritable_iff.mp (hsources text htext) c hin hmem

end

/-- A mapper that names a resource by the document. -/
def ofSubject : Mapper :=
  ⟨{ subject := { path := some "$" }, typeRef := some (.text "http://e/T") }, .ofTexts [], rfl⟩

theorem areScopes_ofSubject (document : Json) : ofSubject.AreScopes document [⟨document, document⟩] := by
  have hpath : notBlank? ofSubject.template.scopePath = none := rfl
  unfold AreScopes
  rw [hpath]

theorem first_ofSubject (text : String) : (Finder.mk (.text text) (.text text)).first (some "$") = .ok (some text) := by
  have hvalues : (Finder.mk (.text text) (.text text)).values (some "$") = .ok [text] := by
    have hwhole : (Json.text text).asText = some text := rfl
    apply values_of_target _ _ hwhole
    · decide
    · have htrim : Text.trim "$" = "$" := by decide
      rw [htrim]
      rfl
  unfold Finder.first
  rw [hvalues]
  rfl

/-- All that a name draws on is the document. -/
theorem eq_of_nameSource_ofSubject {text s : String}
    (h : ofSubject.template.NameSource ⟨.text text, .text text⟩ s) : s = text := by
  cases h with
  | subject source =>
    cases source with
    | const const => cases const
    | template template => cases template
    | format format => cases format
    | found found =>
      have hfirst := (first_ofSubject text).symm.trans found
      cases hfirst
      rfl
  | node node => cases node
  | property property => cases property
  | inner node => cases node

/-- Whatever absolute IRI a document is, it becomes a subject as it stands. -/
theorem mapInto_ofSubject {s : String} (h : Iri.Absolute s) :
    (ofSubject.mapInto {} 0 (.text s)).outcome =
      .ok ⟨⟨[⟨.iri s, rdfType, .node (.iri "http://e/T")⟩]⟩, [.iri s], 0⟩ := by
  have hidentity : (ofSubject.template.subject.identity ⟨.text s, .text s⟩).outcome = .ok (.iri s) := by
    have htext : ofSubject.template.subject.text ⟨.text s, .text s⟩ = .ok (some s) := first_ofSubject s
    unfold SubjectRule.identity
    rw [Traced.outcome_bind, Traced.outcome_lift, htext]
    exact Identity.ofText_eq_iri_iff.mpr ⟨rfl, h⟩
  have hdescribed : (ofSubject.describeScope ⟨.text s, .text s⟩).outcome =
      .ok (.mk (.iri s) (some "http://e/T") []) := by
    unfold describeScope
    rw [Traced.outcome_bind, hidentity]
    rfl
  apply mapInto_eq_ok.mpr
  refine ⟨[.mk (.iri s) (some "http://e/T") []], ?_, rfl⟩
  have hreports : (ofSubject.reportScopes [⟨.text s, .text s⟩]).outcome = .ok () := rfl
  rw [describe_eq_mapM rfl (areScopes_ofSubject _), Traced.outcome_bind, hreports]
  show (Traced.outcome _ : Except Failure _) = _
  rw [Traced.outcome_mapM]
  exact Outcome.mapM_eq_ok.mpr (.cons hdescribed .nil)

/-- A document that is a writable IRI becomes a writable subject. -/
theorem mapInto_names_drawn_ofSubject :
    ∃ r, (ofSubject.mapInto {} 0 (.text "http://e/a")).outcome = .ok r ∧
      ∃ t ∈ r.graph.triples, t.Names "http://e/a" ∧ isWritable "http://e/a" = true := by
  have habsolute : Iri.Absolute "http://e/a" := Iri.isAbsolute_iff.mp (by decide)
  have hmap := mapInto_ofSubject habsolute
  obtain ⟨scopes, added, hscopes, heq, hnames⟩ := mapInto_names_drawn ofSubject {} 0 (.text "http://e/a") _ hmap
  cases hscopes.unique (areScopes_ofSubject _)
  have hmem : ⟨.iri "http://e/a", rdfType, .node (.iri "http://e/T")⟩ ∈ added := by
    have hadded : _ = added := heq
    rw [← hadded]
    exact List.mem_cons_self
  obtain ⟨_, f, hf, _, hwritten⟩ := hnames _ hmem "http://e/a" (.inl rfl)
  cases List.mem_singleton.mp hf
  refine ⟨_, hmap, _, List.mem_cons_self, .inl rfl, ?_⟩
  apply hwritten
  intro text htext
  rw [eq_of_nameSource_ofSubject htext]
  decide

/-- A document that is an IRI with a space in it becomes a subject as well, which the Turtle writer of the program refuses:
    only the scheme decides about names. -/
theorem mapInto_keeps_space :
    ∃ r, (ofSubject.mapInto {} 0 (.text "http://e/a b")).outcome = .ok r ∧
      (∃ t ∈ r.graph.triples, t.Names "http://e/a b") ∧ isWritable "http://e/a b" = false ∧
      Turtle.write r.graph .standard = .error (.unwritable "http://e/a b") := by
  have habsolute : Iri.Absolute "http://e/a b" := Iri.isAbsolute_iff.mp (by decide)
  have hwritable : isWritable "http://e/a b" = false := by decide
  refine ⟨_, mapInto_ofSubject habsolute, ⟨_, List.mem_cons_self, .inl rfl⟩, hwritable, ?_⟩
  apply Turtle.write_typed_refused hwritable
  · decide
  · decide

end Mapper

end GraphLift
