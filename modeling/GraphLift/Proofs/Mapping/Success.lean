import GraphLift.Proofs.Mapping.Requirements
import GraphLift.Proofs.Outcome
import GraphLift.Proofs.Pattern.Markers

/-! # Mapping without failure

    No document makes the mapping of a template fail that keeps to its requirements. Every function of the mapper has
    a lemma of its own, which says what it needs to come out well.

    * **Patterns** (`Pattern.succeeds_expand`) need paths that can be followed.
    * **Values** (`Property.succeeds_terms`) need those, and a language that is one.
    * **Objects** (`Mapper.succeeds_objects`) need room for all the node templates that references lead to.
    * **Mapping** (`Mapper.succeeds_mapInto`) needs no more than the requirements, a type that is a text, and a document
      that is not null.
-/

namespace GraphLift

open Outcome

/-! ## Paths and patterns -/

theorem Finder.target_trim (f : Finder) (path : String) : (f.target (Text.trim path)).2 = Finder.followed path := by
  simp only [target, followed]
  generalize (Text.trim path).toList = cs
  by_cases h : ∃ rest, cs = '$' :: '$' :: rest
  · obtain ⟨rest, rfl⟩ := h
    rfl
  · have hother : ∀ rest, cs = '$' :: '$' :: rest → False := fun rest heq => h ⟨rest, heq⟩
    simp only

section

variable [Library]

theorem Finder.succeeds_nodes {path : String} (h : Followable path) (hblank : Text.isBlank path = false)
    (f : Finder) : Succeeds (f.nodes (Text.trim path)) := by
  have htext := f.target_trim path
  unfold nodes
  generalize f.target (Text.trim path) = target at htext
  obtain ⟨start, text⟩ := target
  dsimp only at htext ⊢
  subst htext
  -- whichever node it starts from, the path leads on
  obtain ⟨p, hp⟩ := Option.isSome_iff_exists.mp (h.parses hblank)
  obtain ⟨found, hfound⟩ := h.total p hp start
  rw [hp]
  dsimp only
  rw [hfound]
  exact succeeds_ok _

theorem Finder.succeeds_values {path : Option String} (h : ∀ s, path = some s → Followable s) (f : Finder) :
    Succeeds (f.values path) := by
  unfold values
  cases path with
  | none => exact succeeds_ok _
  | some s =>
    dsimp only
    by_cases hblank : Text.isBlank s = true
    · rw [if_pos hblank]
      exact succeeds_ok _
    · rw [if_neg hblank]
      exact (f.succeeds_nodes (h s rfl) (by simpa using hblank)).map

theorem Finder.succeeds_first {path : Option String} (h : ∀ s, path = some s → Followable s) (f : Finder) :
    Succeeds (f.first path) :=
  (f.succeeds_values h).map

namespace Pattern

theorem succeeds_lookUp {path : String} (h : Followable path) (f : Finder) : Succeeds (lookUp f path) :=
  (f.succeeds_first fun _ hs => by cases hs; exact h).map

theorem succeeds_substitute {b : Bindings} {body : String} (hpath : isPath body = true → Followable body)
    (hnumber : isNumber body = true → body.length ≤ Text.maxDigits) (hindexed : ∀ s ∈ b.indexed, Followable s) :
    Succeeds (substitute b body) := by
  rcases marker_cases b.indexed body with rfl | hlong | ⟨path, hdenotes⟩ | hnothing
  · rw [substitute_valueWord]
    exact succeeds_ok _
  · exact absurd (hnumber hlong.1) (Nat.not_le.mpr hlong.2)
  · have hfollow : Followable path := hdenotes.cases hindexed hpath
    rw [substitute_of_denotes hdenotes]
    cases b.finder with
    | none => exact succeeds_ok _
    | some f => exact succeeds_lookUp hfollow f
  · rw [substitute_of_meansNothing hnothing]
    exact succeeds_ok _

/-- A pattern that may be used can be filled in, whatever it is bound to. -/
theorem succeeds_expand {b : Bindings} {pattern : String} (h : Fillable pattern)
    (hindexed : ∀ s ∈ b.indexed, Followable s) : Succeeds (expand b pattern) := by
  unfold expand
  rw [expandPieces_eq_mapM]
  refine (succeeds_mapM fun p hp => ?_).map
  cases p with
  | text s => exact succeeds_ok _
  | marker body => exact succeeds_substitute (h.paths body hp) (h.numbers body hp) hindexed

/-- Without indexed paths it is the pattern alone that matters. -/
theorem succeeds_expand_unindexed {b : Bindings} {pattern : String} (h : Fillable pattern) (hb : b.indexed = []) :
    Succeeds (expand b pattern) := by
  refine succeeds_expand h ?_
  rw [hb]
  intro s hs
  cases hs

end Pattern

end

/-! ## References -/

/-- A table whose namespaces are texts or null expands every reference, if only to nothing. -/
theorem PrefixTable.succeeds_expand_of_texts {table : PrefixTable}
    (h : ∀ e ∈ table.entries, e.2 = .null ∨ ∃ s, e.2 = .text s) (reference : String) :
    Succeeds (table.expand reference) := by
  -- only a namespace that is no text would fail
  have htext : ∀ name v, table.namespaceOf? name = some v → ∃ s, v = .text s := by
    intro name v hv
    obtain ⟨e, he, rfl, hnull⟩ := exists_entry_of_namespaceOf? hv
    exact (h e he).resolve_left hnull
  unfold expand
  dsimp only
  split
  · exact succeeds_ok _
  · split
    · exact succeeds_ok _
    · split
      · exact succeeds_ok _
      · split
        · exact succeeds_ok _
        · exact succeeds_ok _
        · next hne hns =>
          obtain ⟨s, rfl⟩ := htext _ _ hns
          exact absurd rfl (hne s)

/-- A table of texts expands every reference. -/
theorem PrefixTable.succeeds_expand (prefixes : List (String × String)) (reference : String) :
    Succeeds ((ofTexts prefixes).expand reference) := by
  refine succeeds_expand_of_texts (fun e he => ?_) reference
  obtain ⟨p, _, rfl⟩ := List.mem_map.mp he
  exact .inr ⟨p.2, rfl⟩

theorem notBlank?_eq_some {s : Option String} {text : String} :
    notBlank? s = some text ↔ s = some text ∧ Text.isBlank text = false := by
  unfold notBlank?
  cases s with
  | none => simp [Text.isMissing]
  | some s =>
    split
    · next h =>
      constructor
      · intro h'
        cases h'
      · intro h
        obtain ⟨h', hblank⟩ := h
        cases h'
        exact absurd h (by simp [Text.isMissing, hblank])
    · next h =>
      constructor
      · intro h'
        cases h'
        exact ⟨rfl, by simpa [Text.isMissing] using h⟩
      · intro h
        obtain ⟨h', _⟩ := h
        exact h'

/-! ## Identities -/

theorem Identity.succeeds_ofText (text : Option String) : Succeeds (Identity.ofText text).outcome := by
  unfold ofText
  cases text with
  | none => exact succeeds_ok _
  | some s =>
    dsimp only
    split
    · exact succeeds_ok _
    · split
      · exact succeeds_ok _
      · exact succeeds_ok _

namespace SubjectRule

variable [Library] {r : SubjectRule}

theorem succeeds_fromTemplate (h : r.Evaluable) (f : Finder) : Succeeds (r.fromTemplate f) := by
  unfold fromTemplate
  split
  · exact succeeds_ok _
  · next s hs =>
    exact (Pattern.succeeds_expand_unindexed (h.template s hs) rfl).bind fun _ _ => succeeds_pure _

theorem succeeds_fromFormat (h : r.Evaluable) (f : Finder) : Succeeds (r.fromFormat f) := by
  unfold fromFormat
  split
  · next format path hformat hpath =>
    refine (f.succeeds_first fun s hs => h.path s (hpath.trans hs)).bind fun v _ => ?_
    cases v with
    | none => exact succeeds_pure _
    | some v =>
      exact (Pattern.succeeds_expand_unindexed (h.format format hformat) rfl).bind fun _ _ => succeeds_pure _
  · exact succeeds_ok _

theorem succeeds_text (h : r.Evaluable) (f : Finder) : Succeeds (r.text f) := by
  unfold text
  cases notBlank? r.const with
  | some s => exact succeeds_pure _
  | none =>
    refine (succeeds_fromTemplate h f).bind fun s _ => ?_
    cases s with
    | some s => exact succeeds_pure _
    | none =>
      refine (succeeds_fromFormat h f).bind fun s _ => ?_
      cases s with
      | some s => exact succeeds_pure _
      | none => exact f.succeeds_first h.path

theorem succeeds_identity (h : r.Evaluable) (f : Finder) : Succeeds (r.identity f).outcome := by
  rw [identity, Traced.outcome_bind, Traced.outcome_lift]
  exact (succeeds_text h f).bind fun s _ => Identity.succeeds_ofText s

end SubjectRule

namespace NodeTemplate

variable [Library] {n : NodeTemplate}

theorem succeeds_candidates (h : n.Evaluable) (f : Finder) : Succeeds (n.candidates f) := by
  unfold candidates
  split
  · exact succeeds_ok _
  · split
    · exact succeeds_ok _
    · exact (f.succeeds_values h.path).bind fun bases _ => succeeds_pure _

theorem succeeds_fromFormat (h : n.Evaluable) (base : Option String) (f : Finder) :
    Succeeds (n.fromFormat base f) := by
  unfold fromFormat
  split
  · exact succeeds_ok _
  · next format hformat =>
    exact (Pattern.succeeds_expand_unindexed (h.format format (notBlank?_eq_some.mp hformat).1) rfl).bind
      fun _ _ => succeeds_pure _

theorem succeeds_fromBase (h : n.Evaluable) (base : Option String) (f : Finder) :
    Succeeds (n.fromBase base f) := by
  unfold fromBase
  dsimp only
  split
  · exact ((succeeds_fromFormat h base f).bind fun _ _ => succeeds_pure _).bind fun _ _ => succeeds_pure _
  · exact succeeds_pure _

theorem succeeds_iriFor (h : n.Evaluable) (base : Option String) (f : Finder) :
    Succeeds (n.iriFor base f).outcome := by
  unfold iriFor
  cases notBlank? n.const with
  | some s => exact succeeds_ok _
  | none =>
    simp only [Traced.outcome_bind, Traced.outcome_lift]
    refine (succeeds_fromBase h _ f).bind fun iri _ => ?_
    split
    · exact succeeds_ok _
    · exact succeeds_ok _

theorem succeeds_identify (h : n.Evaluable) (base : Option String) (f : Finder) :
    Succeeds (n.identify base f).outcome := by
  unfold identify
  cases n.kind with
  | anonymous => exact succeeds_ok _
  | iri =>
    dsimp only
    rw [Traced.outcome_bind]
    exact (succeeds_iriFor h base f).bind fun s _ => Identity.succeeds_ofText s

end NodeTemplate

/-! ## Values -/

namespace Property

variable {p : Property} {prefixes : List (String × String)}

theorem succeeds_datatypeIri? (p : Property) : Succeeds (p.datatypeIri? (.ofTexts prefixes)) := by
  unfold datatypeIri?
  split
  · exact succeeds_ok _
  · split
    · exact succeeds_ok _
    · refine (PrefixTable.succeeds_expand prefixes _).bind fun iri _ => ?_
      split
      · exact succeeds_pure _
      · exact succeeds_pure _
      · exact succeeds_pure _

variable [Library]

theorem succeeds_baseValues (h : p.Evaluable) (f : Finder) : Succeeds (p.baseValues f) := by
  unfold baseValues
  split
  · exact succeeds_ok _
  · next path _ hpath =>
    exact (f.succeeds_values fun s hs => h.path s (hpath.trans hs)).bind
      fun found _ => succeeds_pure _
  · exact succeeds_ok _

theorem succeeds_applyFormat (h : p.Evaluable) (f : Finder) (value : Option String) :
    Succeeds (p.applyFormat f value) := by
  unfold applyFormat
  split
  · next _ format v hformat =>
    exact (Pattern.succeeds_expand (h.format format (notBlank?_eq_some.mp hformat).1) h.indexed).bind
      fun _ _ => succeeds_pure _
  · exact succeeds_ok _

theorem succeeds_resolvedValues (h : p.Evaluable) (f : Finder) : Succeeds (p.resolvedValues f) :=
  (succeeds_baseValues h f).bind fun _ _ => succeeds_mapM fun _ _ => succeeds_applyFormat h f _

theorem succeeds_literal (h : p.Evaluable) (value : String) : Succeeds (p.literal (.ofTexts prefixes) value) := by
  unfold literal
  refine p.succeeds_datatypeIri?.bind fun datatype _ => ?_
  cases datatype with
  | some d => exact succeeds_pure _
  | none =>
    dsimp only
    split
    · next tag htag =>
      obtain ⟨hlang, hblank⟩ := notBlank?_eq_some.mp htag
      rw [if_pos (h.lang tag hlang hblank)]
      exact succeeds_pure _
    · exact succeeds_pure _

/-- The values of a property that may be used come out well, unless it refers to a node template. -/
theorem succeeds_terms (h : p.Evaluable) (hkind : p.kind ≠ .nodeRef) (f : Finder) :
    Succeeds (p.terms (.ofTexts prefixes) f).outcome := by
  simp only [terms, Traced.outcome_bind, Traced.outcome_lift]
  refine (succeeds_resolvedValues h f).bind fun resolved _ => ?_
  cases hk : p.kind with
  | literal =>
    dsimp only
    rw [Traced.outcome_lift]
    -- every value is a literal of its own
    exact succeeds_mapM fun v _ => (succeeds_literal h v).bind fun _ _ => succeeds_pure _
  | iri =>
    dsimp only
    rw [Traced.outcome_mapM]
    refine succeeds_mapM fun v _ => ?_
    rw [Traced.outcome_bind]
    exact (Identity.succeeds_ofText (some v)).bind fun _ _ => succeeds_ok _
  | nodeRef => exact absurd hk hkind

/-- There are no values of a property that refers to a node template. -/
theorem terms_ne_ok (hkind : p.kind = .nodeRef) {table : PrefixTable} {f : Finder} {vs : List Value} :
    (p.terms table f).outcome ≠ .ok vs := by
  intro h
  simp only [terms, Traced.outcome_bind, Traced.outcome_lift, Outcome.bind_eq_ok, hkind] at h
  obtain ⟨_, _, h⟩ := h
  cases h

end Property

/-! ## Descriptions -/

/-- The reference is a text, or there is none. -/
def Reference.Textual (reference : Option Reference) : Prop :=
  ∀ v, reference ≠ some (.other v)

namespace Mapper

variable {t : ResourceTemplate} {prefixes : List (String × String)}

theorem succeeds_typeIri {reference : Option Reference} (h : Reference.Textual reference) :
    Succeeds (typeIri (.ofTexts prefixes) reference).outcome := by
  unfold typeIri
  split
  · exact succeeds_ok _
  · next v => exact absurd rfl (h v)
  · next s =>
    simp only [Traced.outcome_bind, Traced.outcome_lift]
    refine (PrefixTable.succeeds_expand prefixes s).bind fun iri _ => ?_
    split
    · exact succeeds_ok _
    · exact succeeds_ok _

theorem succeeds_statement {objects : Property → Traced (List Value)} {key : String} {p : Property}
    (h : Succeeds (objects p).outcome) : Succeeds (statement (.ofTexts prefixes) objects key p).outcome := by
  unfold statement
  rw [Traced.outcome_bind, Traced.outcome_lift]
  refine (PrefixTable.succeeds_expand prefixes p.predicate).bind fun predicate _ => ?_
  cases predicate with
  | none => exact succeeds_ok _
  | some predicate =>
    dsimp only
    rw [Traced.outcome_bind]
    exact h.bind fun _ _ => succeeds_ok _

theorem succeeds_statements {objects : Property → Traced (List Value)} {properties : List (String × Property)}
    (h : ∀ p ∈ properties, Succeeds (objects p.2).outcome) :
    Succeeds (statements (.ofTexts prefixes) objects properties).outcome := by
  induction properties with
  | nil => exact succeeds_ok _
  | cons p rest ih =>
    obtain ⟨key, p⟩ := p
    simp only [statements, Traced.outcome_bind]
    refine (succeeds_statement (h _ List.mem_cons_self)).bind fun head _ => ?_
    exact (ih fun q hq => h q (List.mem_cons_of_mem _ hq)).bind fun tail _ => succeeds_ok _

variable [Library]

/-- The objects of a property come out well, if there is room for all the node templates that references lead to from
    it. -/
theorem succeeds_objects (h : t.Evaluable) {key : String} {p : Property} (hp : p.Evaluable) {room : Nat}
    (hroom : ∀ chain, t.Leads [(key, p)] chain → chain.length ≤ room) (f : Finder) :
    Succeeds (objects t (.ofTexts prefixes) f room p).outcome := by
  induction room, p using objects_induction t generalizing key with
  | value room p hkind =>
    rw [objects_of_ne hkind]
    exact Property.succeeds_terms hp hkind f
  | unknown room p hkind hnode =>
    rw [objects_of_unknown hkind hnode]
    exact succeeds_ok _
  | full p n hkind hnode =>
    -- one reference would need more room than there is
    obtain ⟨id, hid, hn⟩ := Option.bind_eq_some_iff.mp hnode
    have hlong := hroom _ ((ResourceTemplate.Leads.nil n.properties).cons hkind hid hn)
    rw [List.length_singleton] at hlong
    omega
  | node room p n hkind hnode ih =>
    -- the properties of the node template have one step less to go
    obtain ⟨id, hid, hn⟩ := Option.bind_eq_some_iff.mp hnode
    have heval : n.Evaluable := h.nodes n (List.mem_of_find?_eq_some hn)
    have htype : Reference.Textual (n.typeRef.map .text) := by
      intro v hv
      cases hr : n.typeRef <;> simp [hr] at hv
    have hsaid : Succeeds (statements (.ofTexts prefixes) (objects t (.ofTexts prefixes) f room)
        n.properties).outcome := by
      refine succeeds_statements fun q hq => ih q.2 (heval.properties q hq) fun chain (hchain : t.Leads [q] chain) => ?_
      have hlong := hroom _ ((hchain.of_mem hq).cons hkind hid hn)
      rw [List.length_cons] at hlong
      omega
    rw [objects_of_node hkind hnode]
    simp only [Traced.outcome_bind, Traced.outcome_lift, Traced.outcome_mapM]
    refine (NodeTemplate.succeeds_candidates heval f).bind fun bases _ => succeeds_mapM fun base _ => ?_
    refine (NodeTemplate.succeeds_identify heval base f).bind fun identity _ => ?_
    refine (succeeds_typeIri htype).bind fun type _ => ?_
    exact hsaid.bind fun said _ => succeeds_ok _

/-- The mapping of a template that keeps to its requirements comes out well. -/
theorem succeeds_mapInto {m : Mapper} (htable : m.table = .ofTexts prefixes) (h : m.template.Evaluable)
    (htype : Reference.Textual m.template.typeRef) {document : Json} (hdoc : document.isNull = false) (g : Graph)
    (next : Nat) : Succeeds (m.mapInto g next document).outcome := by
  have hscope : ∀ f, Succeeds (m.describeScope f).outcome := by
    intro f
    unfold describeScope
    simp only [Traced.outcome_bind]
    rw [htable]
    refine (SubjectRule.succeeds_identity h.subject f).bind fun identity _ => ?_
    refine (succeeds_typeIri htype).bind fun type _ => ?_
    refine Succeeds.bind ?_ fun said _ => succeeds_ok _
    exact succeeds_statements fun p hp => succeeds_objects h (h.properties p hp)
      (fun chain hchain => h.shallow chain (hchain.of_mem hp)) f
  have hscopes : ∀ f, Succeeds (m.scopes f).outcome := by
    intro f
    unfold scopes
    split
    · exact succeeds_ok _
    · next path hpath =>
      obtain ⟨hsome, hblank⟩ := notBlank?_eq_some.mp hpath
      simp only [Traced.outcome_bind, Traced.outcome_lift]
      refine (f.succeeds_nodes (h.scope path hsome) hblank).bind fun found _ => ?_
      split
      · exact succeeds_ok _
      · exact succeeds_ok _
  unfold mapInto describe Finder.ofDocument
  rw [hdoc]
  simp only [Traced.outcome_bind, Traced.outcome_lift, Traced.outcome_mapM]
  refine Succeeds.bind ((succeeds_ok _).bind fun f _ => ?_) fun ds _ => succeeds_ok _
  exact (hscopes f).bind fun found _ => succeeds_mapM fun s _ => hscope s

end Mapper

/-! ## Templates as they are read -/

namespace Template

/-- The type of a template is a text, if the one from outside is a text whenever it counts as something. -/
theorem textual_of_truthy {members : Members} {outside : Json} {t : ResourceTemplate}
    (houtside : outside.isTruthy = true → ∃ s, outside = .text s) (h : ofMembers members outside = .ok t) :
    Reference.Textual t.typeRef := by
  simp only [ofMembers, bind_eq_ok] at h
  obtain ⟨_, _, subject, _, _, _, nodes, _, scope, _, type, htype, properties, _, h⟩ := h
  cases h
  intro v hv
  dsimp only at hv
  subst hv
  unfold chooseType at htype
  split at htype
  -- a type from outside that is a text is no other value
  · next htruthy =>
    obtain ⟨s, rfl⟩ := houtside htruthy
    cases htype
  · obtain ⟨r, _, htype⟩ := bind_eq_ok.mp htype
    cases r <;> cases htype

theorem textual_of_ofMembers {members : Members} {outside : Json} {t : ResourceTemplate}
    (houtside : outside = .null ∨ ∃ s, outside = .text s) (h : ofMembers members outside = .ok t) :
    Reference.Textual t.typeRef := by
  refine textual_of_truthy (fun htruthy => ?_) h
  rcases houtside with rfl | htext
  · cases htruthy
  · exact htext

/-- A template that is read has no circle of references. -/
theorem read_eq_ok {members : Members} {outside : Json} {t : ResourceTemplate}
    (h : (read members outside).outcome = .ok t) : ofMembers members outside = .ok t ∧ t.findCycle = none := by
  simp only [read, Traced.outcome_bind, Traced.outcome_lift, bind_eq_ok] at h
  obtain ⟨t', ht', _, hcheck, h⟩ := h
  cases h
  refine ⟨?_, ?_⟩
  · cases hm : ofMembers members outside with
    | error e =>
      rw [hm] at ht'
      cases ht'
    | ok t'' =>
      rw [hm] at ht'
      cases ht'
      rfl
  · unfold ResourceTemplate.checkReferences at hcheck
    split at hcheck
    · cases hcheck
    · next hnone => exact hnone

end Template

theorem Mapper.ofTemplate_eq_ok {t : ResourceTemplate} {table : PrefixTable} (h : t.findCycle = none) :
    Mapper.ofTemplate t table = .ok ⟨t, table, h⟩ := by
  unfold ofTemplate
  split
  · rfl
  · next circle hcircle =>
    rw [h] at hcircle
    cases hcircle

/-- A mapper has the template and the table that it is made of. -/
theorem Mapper.parts_of_ofTemplate {t : ResourceTemplate} {table : PrefixTable} {m : Mapper}
    (h : ofTemplate t table = .ok m) : m.template = t ∧ m.table = table := by
  unfold ofTemplate at h
  split at h
  · cases h
    exact ⟨rfl, rfl⟩
  · cases h

/-- A list of two titles, the second of which is null. -/
def Json.twoTitles : Json := .array [.text "one", .null]

/-- **No document makes a mapping fail.** A template that was read, with a type from outside that is a text or null,
    and that keeps to its requirements, has a mapper with every table of texts, and the mapping of every document
    that is not null comes out well. In particular no mapping gets to the values of a property that refers to a node
    template, where it would fail. -/
theorem mapInto_succeeds [Library] (members : Template.Members) (outside : Json) (t : ResourceTemplate)
    (prefixes : List (String × String)) (houtside : outside = .null ∨ ∃ s, outside = .text s)
    (hread : (Template.read members outside).outcome = .ok t) (heval : t.Evaluable) :
    ∃ m, Mapper.ofTemplate t (.ofTexts prefixes) = .ok m ∧
      (∀ (document : Json) (g : Graph) (next : Nat), document.isNull = false →
        ∃ r, (m.mapInto g next document).outcome = .ok r) ∧
      (∀ (p : Property) (f : Finder) (vs : List Value), p.kind = .nodeRef →
        (p.terms m.table f).outcome ≠ .ok vs) := by
  obtain ⟨hmembers, hcycle⟩ := Template.read_eq_ok hread
  refine ⟨⟨t, .ofTexts prefixes, hcycle⟩, Mapper.ofTemplate_eq_ok hcycle, ?_, ?_⟩
  · intro document g next hdoc
    exact Mapper.succeeds_mapInto rfl heval (Template.textual_of_ofMembers houtside hmembers) hdoc g next
  · intro p f vs hkind
    exact Property.terms_ne_ok hkind

/-- The template of lists keeps to its requirements, so that it maps the list of titles, and all other documents. -/
theorem mapInto_succeeds_ofList :
    ∃ m, Mapper.ofTemplate .ofList (.ofTexts [("ex", "http://example.org/")]) = .ok m ∧
      ∃ r, (m.mapInto {} 0 .twoTitles).outcome = .ok r := by
  obtain ⟨m, hm, hmaps, _⟩ := mapInto_succeeds Template.ofList .null .ofList [("ex", "http://example.org/")]
    (.inl rfl) rfl ResourceTemplate.evaluable_ofList
  exact ⟨m, hm, hmaps .twoTitles {} 0 rfl⟩

end GraphLift
