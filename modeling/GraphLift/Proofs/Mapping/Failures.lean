import GraphLift.Proofs.Mapping.Lookups

/-! # How mappings fail

    A mapping can fail for three reasons: the document is null, something on the way cannot be looked up or cannot be
    made into a value, or node templates are nested too deep.

    * **Lookups** fail in certain ways along the paths of a template (`Finder.FailsAlong`).
    * **What may go wrong** within the parts of a mapping (`ResourceTemplate.Confines`) is all that goes wrong in them.
    * **The guard** (`Mapper.failsOnly_objects`) raises if and only if references lead through more node templates
      than there is room for; it names the last one of them.
    * **Mapping** (`Mapper.failsOnly_describe`): these are all failures there are.
-/

namespace GraphLift

open Outcome

variable {P : Failure → Prop}

/-! ## Lookups -/

/-- Along every one of the paths a lookup fails in a certain way only. -/
def Finder.FailsAlong [Library] (P : Failure → Prop) (paths : List String) (f : Finder) : Prop :=
  ∀ p ∈ paths, FailsOnly P (f.values (some p))

namespace Finder

variable [Library] {paths : List String} {f : Finder}

theorem failsAlong_nil : f.FailsAlong P [] :=
  fun _ hp => absurd hp List.not_mem_nil

theorem FailsAlong.mono {paths' : List String} (h : f.FailsAlong P paths) (hsub : paths' ⊆ paths) :
    f.FailsAlong P paths' :=
  fun p hp => h p (hsub hp)

theorem FailsAlong.values (h : f.FailsAlong P paths) {path : Option String} (hpath : path.toList ⊆ paths) :
    FailsOnly P (f.values path) := by
  cases path with
  | none => exact failsOnly_ok _
  | some p => exact h p (hpath List.mem_cons_self)

theorem FailsAlong.first (h : f.FailsAlong P paths) {path : Option String} (hpath : path.toList ⊆ paths) :
    FailsOnly P (f.first path) :=
  (h.values hpath).map

/-- A path is looked up as its nodes are, unless it is blank. -/
theorem failsOnly_values {path : String} (h : Text.isBlank path = false → FailsOnly P (f.nodes (Text.trim path))) :
    FailsOnly P (f.values (some path)) := by
  unfold values
  dsimp only
  by_cases hblank : Text.isBlank path = true
  · rw [if_pos hblank]
    exact failsOnly_ok _
  · rw [if_neg hblank]
    exact (h (by simpa using hblank)).map

end Finder

open Finder

variable {paths : List String} {f : Finder}

/-! ## Patterns -/

namespace Pattern

variable [Library]

theorem failsOnly_substitute (hvalue : ∀ e, P (.value e)) {indexed : List String} {value : Option String}
    {body : String} (hbody : isPath body = true → FailsOnly P (f.values (some body)))
    (hindexed : f.FailsAlong P indexed) : FailsOnly P (substitute ⟨some f, value, indexed⟩ body) := by
  have hlookUp : ∀ path, FailsOnly P (f.values (some path)) → FailsOnly P (lookUp f path) := fun path h => h.map.map
  rcases marker_cases indexed body with rfl | hlong | ⟨path, hdenotes⟩ | hnothing
  · rw [substitute_valueWord]
    exact failsOnly_ok _
  · rw [substitute_of_isOverlong hlong]
    exact failsOnly_error (hvalue _)
  · rw [substitute_of_denotes hdenotes]
    exact hlookUp path (hdenotes.cases hindexed hbody)
  · rw [substitute_of_meansNothing hnothing]
    exact failsOnly_ok _

/-- A pattern fails as the lookups along its paths and along the indexed ones do. -/
theorem failsOnly_expand (hvalue : ∀ e, P (.value e)) {indexed : List String} {value : Option String}
    {pattern : String} (h : f.FailsAlong P (Pattern.paths pattern)) (hindexed : f.FailsAlong P indexed) :
    FailsOnly P (expand ⟨some f, value, indexed⟩ pattern) := by
  unfold expand
  rw [expandPieces_eq_mapM]
  refine (failsOnly_mapM fun p hp => ?_).map
  cases p with
  | text s => exact failsOnly_ok _
  | marker body => exact failsOnly_substitute hvalue (fun hpath => h body (mem_paths hp hpath)) hindexed

end Pattern

/-! ## Identities -/

theorem Identity.failsOnly_ofText (text : Option String) : FailsOnly P (Identity.ofText text).outcome := by
  obtain ⟨identity, hid⟩ := Identity.succeeds_ofText text
  rw [hid]
  exact failsOnly_ok _

namespace SubjectRule

variable [Library] {r : SubjectRule}

theorem failsOnly_text (hvalue : ∀ e, P (.value e)) (h : f.FailsAlong P r.paths) : FailsOnly P (r.text f) := by
  have htemplate : FailsOnly P (r.fromTemplate f) := by
    unfold fromTemplate
    cases hpattern : r.template with
    | none => exact failsOnly_ok _
    | some s =>
      have hsub : Pattern.paths s ⊆ r.paths := fun _ hp =>
        List.mem_append_left _ (List.mem_append_right _ (Pattern.mem_pathsOf hpattern hp))
      exact (Pattern.failsOnly_expand hvalue (h.mono hsub) failsAlong_nil).bind fun _ _ => failsOnly_pure _
  have hformat : FailsOnly P (r.fromFormat f) := by
    unfold fromFormat
    cases hpattern : r.format with
    | none => exact failsOnly_ok _
    | some format =>
      have hsub : Pattern.paths format ⊆ r.paths := fun _ hp =>
        List.mem_append_right _ (Pattern.mem_pathsOf hpattern hp)
      cases hpath : r.path with
      | none => exact failsOnly_ok _
      | some path =>
        refine (h.first (hpath ▸ path_subset)).bind fun v _ => ?_
        cases v with
        | none => exact failsOnly_pure _
        | some v => exact (Pattern.failsOnly_expand hvalue (h.mono hsub) failsAlong_nil).bind fun _ _ => failsOnly_pure _
  unfold text
  cases notBlank? r.const with
  | some s => exact failsOnly_pure _
  | none =>
    refine htemplate.bind fun s _ => ?_
    cases s with
    | some s => exact failsOnly_pure _
    | none =>
      refine hformat.bind fun s _ => ?_
      cases s with
      | some s => exact failsOnly_pure _
      | none => exact h.first path_subset

theorem failsOnly_identity (hvalue : ∀ e, P (.value e)) (h : f.FailsAlong P r.paths) :
    FailsOnly P (r.identity f).outcome := by
  rw [identity, Traced.outcome_bind, Traced.outcome_lift]
  exact (failsOnly_text hvalue h).bind fun s _ => Identity.failsOnly_ofText s

end SubjectRule

namespace NodeTemplate

variable [Library] {n : NodeTemplate}

theorem failsOnly_candidates (h : f.FailsAlong P n.paths) : FailsOnly P (n.candidates f) := by
  have hsub : n.path.toList ⊆ n.paths := fun _ hs => List.mem_append_left _ (List.mem_append_left _ hs)
  unfold candidates
  split
  · exact failsOnly_ok _
  · split
    · exact failsOnly_ok _
    · exact (h.values hsub).bind fun bases _ => failsOnly_pure _

theorem failsOnly_fromBase (hvalue : ∀ e, P (.value e)) (h : f.FailsAlong P n.paths) (base : Option String) :
    FailsOnly P (n.fromBase base f) := by
  have hformat : FailsOnly P (n.fromFormat base f) := by
    unfold fromFormat
    cases hpattern : notBlank? n.format with
    | none => exact failsOnly_ok _
    | some format =>
      have hsub : Pattern.paths format ⊆ n.paths := fun _ hp =>
        List.mem_append_left _ (List.mem_append_right _ (Pattern.mem_pathsOf (notBlank?_eq_some.mp hpattern).1 hp))
      exact (Pattern.failsOnly_expand hvalue (h.mono hsub) failsAlong_nil).bind fun _ _ => failsOnly_pure _
  unfold fromBase
  dsimp only
  split
  · exact (hformat.bind fun _ _ => failsOnly_pure _).bind fun _ _ => failsOnly_pure _
  · exact failsOnly_pure _

theorem failsOnly_identify (hvalue : ∀ e, P (.value e)) (h : f.FailsAlong P n.paths) (base : Option String) :
    FailsOnly P (n.identify base f).outcome := by
  have hiri : FailsOnly P (n.iriFor base f).outcome := by
    unfold iriFor
    cases notBlank? n.const with
    | some s => exact failsOnly_ok _
    | none =>
      simp only [Traced.outcome_bind, Traced.outcome_lift]
      refine (failsOnly_fromBase hvalue h _).bind fun iri _ => ?_
      split
      · exact failsOnly_ok _
      · exact failsOnly_ok _
  unfold identify
  cases n.kind with
  | anonymous => exact failsOnly_ok _
  | iri =>
    dsimp only
    rw [Traced.outcome_bind]
    exact hiri.bind fun s _ => Identity.failsOnly_ofText s

end NodeTemplate

/-! ## Values -/

namespace Property

variable [Library] {p : Property} {table : PrefixTable}

theorem failsOnly_resolvedValues (hvalue : ∀ e, P (.value e)) (h : f.FailsAlong P p.paths) :
    FailsOnly P (p.resolvedValues f) := by
  have hbase : FailsOnly P (p.baseValues f) := by
    unfold baseValues
    cases p.const with
    | some c => exact failsOnly_ok _
    | none =>
      cases hpath : p.path with
      | none => exact failsOnly_ok _
      | some path =>
        have hsub : p.path.toList ⊆ p.paths := fun _ hs => List.mem_append_left _ (List.mem_append_left _ hs)
        exact (h.values (hpath ▸ hsub)).bind fun found _ => failsOnly_pure _
  have hformat : ∀ value, FailsOnly P (p.applyFormat f value) := by
    intro value
    unfold applyFormat
    cases hpattern : notBlank? p.format with
    | none => exact failsOnly_ok _
    | some format =>
      have hsub : Pattern.paths format ⊆ p.paths := fun _ hp =>
        List.mem_append_right _ (Pattern.mem_pathsOf (notBlank?_eq_some.mp hpattern).1 hp)
      have hindexed : p.indexedPaths ⊆ p.paths := fun _ hs => List.mem_append_left _ (List.mem_append_right _ hs)
      cases value with
      | none => exact failsOnly_ok _
      | some v =>
        exact (Pattern.failsOnly_expand hvalue (h.mono hsub) (h.mono hindexed)).bind fun _ _ => failsOnly_pure _
  exact hbase.bind fun values _ => failsOnly_mapM fun v _ => hformat _

theorem failsOnly_literal (hvalue : ∀ e, P (.value e)) (hexpand : ∀ r, FailsOnly P (table.expand r))
    (value : String) : FailsOnly P (p.literal table value) := by
  have hdatatype : FailsOnly P (p.datatypeIri? table) := by
    unfold datatypeIri?
    split
    · exact failsOnly_ok _
    · split
      · exact failsOnly_ok _
      · refine (hexpand _).bind fun iri _ => ?_
        split
        · exact failsOnly_pure _
        · exact failsOnly_pure _
        · exact failsOnly_pure _
  unfold literal
  refine hdatatype.bind fun datatype _ => ?_
  cases datatype with
  | some d => exact failsOnly_pure _
  | none =>
    dsimp only
    split
    · split
      · exact failsOnly_pure _
      · exact failsOnly_error (hvalue _)
    · exact failsOnly_pure _

theorem failsOnly_terms (hvalue : ∀ e, P (.value e)) (hexpand : ∀ r, FailsOnly P (table.expand r))
    (h : f.FailsAlong P p.paths) : FailsOnly P (p.terms table f).outcome := by
  simp only [terms, Traced.outcome_bind, Traced.outcome_lift]
  refine (failsOnly_resolvedValues hvalue h).bind fun resolved _ => ?_
  cases p.kind with
  | literal =>
    dsimp only
    rw [Traced.outcome_lift]
    exact failsOnly_mapM fun v _ => (failsOnly_literal hvalue hexpand v).bind fun _ _ => failsOnly_pure _
  | iri =>
    dsimp only
    rw [Traced.outcome_mapM]
    refine failsOnly_mapM fun v _ => ?_
    rw [Traced.outcome_bind]
    exact (Identity.failsOnly_ofText (some v)).bind fun _ _ => failsOnly_ok _
  | nodeRef => exact failsOnly_error (hvalue _)

end Property

/-! ## Templates -/

/-- All that goes wrong within the parts of a mapping is of a certain kind: values that cannot be used, references that
    cannot be expanded, and paths that cannot be followed. -/
structure ResourceTemplate.Confines [Library] (t : ResourceTemplate) (table : PrefixTable) (P : Failure → Prop) : Prop where
  value : ∀ e, P (.value e)
  expand : ∀ r, FailsOnly P (table.expand r)
  type : ∀ v, t.typeRef = some (.other v) → P (.shape .notTrimmable)
  scope : ∀ path, t.scopePath = some path → Text.isBlank path = false → ∀ f : Finder,
    FailsOnly P (f.nodes (Text.trim path))
  lookups : ∀ f : Finder, f.FailsAlong P t.paths

namespace Mapper

variable {t : ResourceTemplate} {table : PrefixTable}

theorem failsOnly_typeIri (hexpand : ∀ r, FailsOnly P (table.expand r)) {reference : Option Reference}
    (h : ∀ v, reference = some (.other v) → P (.shape .notTrimmable)) :
    FailsOnly P (typeIri table reference).outcome := by
  unfold typeIri
  split
  · exact failsOnly_ok _
  · next v => exact failsOnly_error (h v rfl)
  · simp only [Traced.outcome_bind, Traced.outcome_lift]
    refine (hexpand _).bind fun iri _ => ?_
    split
    · exact failsOnly_ok _
    · exact failsOnly_ok _

/-- Statements fail as references do, or as the objects of one of the properties do. -/
theorem failsOnly_statements (hexpand : ∀ r, FailsOnly P (table.expand r)) {objects : Property → Traced (List Value)}
    {properties : List (String × Property)} (h : ∀ p ∈ properties, FailsOnly P (objects p.2).outcome) :
    FailsOnly P (statements table objects properties).outcome := by
  induction properties with
  | nil => exact failsOnly_ok _
  | cons kp rest ih =>
    obtain ⟨key, p⟩ := kp
    have hstatement : FailsOnly P (statement table objects key p).outcome := by
      unfold statement
      rw [Traced.outcome_bind, Traced.outcome_lift]
      refine (hexpand p.predicate).bind fun predicate _ => ?_
      cases predicate with
      | none => exact failsOnly_ok _
      | some predicate =>
        dsimp only
        rw [Traced.outcome_bind]
        exact (h (key, p) List.mem_cons_self).bind fun _ _ => failsOnly_ok _
    simp only [statements, Traced.outcome_bind]
    refine hstatement.bind fun head _ => ?_
    exact (ih fun q hq => h q (List.mem_cons_of_mem _ hq)).bind fun tail _ => failsOnly_ok _

/-! ## The guard -/

/-- A failure of the parts, or that of the guard: references lead from properties through one node template more than there
    is room for, and the failure names the last one. -/
def FailsWithin (P : Failure → Prop) (t : ResourceTemplate) (properties : List (String × Property)) (room : Nat)
    (e : Failure) : Prop :=
  P e ∨ ∃ chain id, e = .mapping (.tooDeep maxDepth id) ∧ t.Leads properties chain ∧
    chain.length = room + 1 ∧ chain.getLast? = some id

/-- Failures of the parts need no chain. -/
theorem failsWithin_of_failsOnly {α : Type} {x : Except Failure α} (h : FailsOnly P x)
    {properties : List (String × Property)} {room : Nat} : FailsOnly (FailsWithin P t properties room) x :=
  h.imp fun _ he => .inl he

theorem FailsWithin.of_mem {properties : List (String × Property)} {p : String × Property} {room : Nat} {e : Failure}
    (h : FailsWithin P t [p] room e) (hp : p ∈ properties) : FailsWithin P t properties room e := by
  rcases h with hpart | ⟨chain, id, he, hleads, hlength, hlast⟩
  · exact .inl hpart
  · exact .inr ⟨chain, id, he, hleads.of_mem hp, hlength, hlast⟩

theorem FailsWithin.cons {key id : String} {p : Property} {n : NodeTemplate} {room : Nat} {e : Failure}
    (h : FailsWithin P t n.properties room e) (hkind : p.kind = .nodeRef) (hid : p.node = some id)
    (hn : t.node? id = some n) : FailsWithin P t [(key, p)] (room + 1) e := by
  rcases h with hpart | ⟨chain, last, he, hleads, hlength, hlast⟩
  · exact .inl hpart
  · refine .inr ⟨id :: chain, last, he, hleads.cons hkind hid hn, ?_, ?_⟩
    · rw [List.length_cons, hlength]
    · cases chain with
      | nil => cases hlast
      | cons second rest => rw [List.getLast?_cons_cons, hlast]

variable [Library]

/-- The objects of a property fail as the parts do, or because there is no room for the node templates it leads to. -/
theorem failsOnly_objects (h : t.Confines table P) (f : Finder) (key : String) {p : Property} (hp : p.paths ⊆ t.paths)
    (room : Nat) : FailsOnly (FailsWithin P t [(key, p)] room) (objects t table f room p).outcome := by
  induction room, p using objects_induction t generalizing key with
  | value room p hkind =>
    rw [objects_of_ne hkind]
    exact failsWithin_of_failsOnly (Property.failsOnly_terms h.value h.expand ((h.lookups f).mono hp))
  | unknown room p hkind hnode =>
    rw [objects_of_unknown hkind hnode]
    exact failsOnly_ok _
  | full p n hkind hnode =>
    -- this is where the guard raises
    obtain ⟨id, hid, hn⟩ := Option.bind_eq_some_iff.mp hnode
    have hname : n.id = id := by simpa using List.find?_some hn
    have hleads : t.Leads [(key, p)] [id] := (ResourceTemplate.Leads.nil n.properties).cons hkind hid hn
    rw [objects_of_full hkind hnode]
    exact failsOnly_error (.inr ⟨[id], n.id, rfl, hleads, rfl, by rw [hname]; rfl⟩)
  | node room p n hkind hnode ih =>
    obtain ⟨id, hid, hn⟩ := Option.bind_eq_some_iff.mp hnode
    have hpaths := ResourceTemplate.node_paths_subset (List.mem_of_find?_eq_some hn)
    have hsaid : FailsOnly (FailsWithin P t n.properties room)
        (statements table (objects t table f room) n.properties).outcome :=
      failsOnly_statements (fun r => failsWithin_of_failsOnly (h.expand r)) fun q hq =>
        (ih q.2 q.1 (List.Subset.trans (NodeTemplate.property_paths_subset hq) hpaths)).imp fun _ he => he.of_mem hq
    have halong := (h.lookups f).mono hpaths
    have htype : FailsOnly P (typeIri table (n.typeRef.map .text)).outcome := by
      refine failsOnly_typeIri h.expand fun v hv => ?_
      cases href : n.typeRef with
      | none => rw [href] at hv; cases hv
      | some s => rw [href] at hv; cases hv
    rw [objects_of_node hkind hnode]
    simp only [Traced.outcome_bind, Traced.outcome_lift, Traced.outcome_mapM]
    refine (failsWithin_of_failsOnly (NodeTemplate.failsOnly_candidates halong)).bind fun bases _ =>
      failsOnly_mapM fun base _ => ?_
    refine (failsWithin_of_failsOnly (NodeTemplate.failsOnly_identify h.value halong base)).bind
      fun identity _ => ?_
    refine (failsWithin_of_failsOnly htype).bind fun type _ => ?_
    exact (hsaid.imp fun _ he => he.cons hkind hid hn).bind fun said _ => failsOnly_ok _

/-- Descriptions fail as the parts do, by the guard, or because the document is null. -/
theorem failsOnly_describe {m : Mapper} (h : m.template.Confines m.table P) (document : Json) :
    FailsOnly (fun e => e = .mapping .noDocument ∨ FailsWithin P m.template m.template.properties maxDepth e)
      (m.describe document).outcome := by
  have hscope : ∀ f, FailsOnly (FailsWithin P m.template m.template.properties maxDepth)
      (m.describeScope f).outcome := by
    intro f
    have hsubject := (h.lookups f).mono ResourceTemplate.subject_paths_subset
    simp only [describeScope, Traced.outcome_bind]
    refine (failsWithin_of_failsOnly (SubjectRule.failsOnly_identity h.value hsubject)).bind fun identity _ => ?_
    refine (failsWithin_of_failsOnly (failsOnly_typeIri h.expand h.type)).bind fun type _ => ?_
    refine FailsOnly.bind ?_ fun said _ => failsOnly_ok _
    exact failsOnly_statements (fun r => failsWithin_of_failsOnly (h.expand r)) fun p hp =>
      (failsOnly_objects h f p.1 (ResourceTemplate.property_paths_subset hp) maxDepth).imp fun _ he => he.of_mem hp
  have hscopes : ∀ f, FailsOnly P (m.scopes f).outcome := by
    intro f
    unfold scopes
    cases hpath : notBlank? m.template.scopePath with
    | none => exact failsOnly_ok _
    | some path =>
      obtain ⟨hwritten, hblank⟩ := notBlank?_eq_some.mp hpath
      simp only [Traced.outcome_bind, Traced.outcome_lift]
      refine (h.scope path hwritten hblank f).bind fun found _ => ?_
      split
      · exact failsOnly_ok _
      · exact failsOnly_ok _
  have hdocument : FailsOnly (fun e => e = .mapping .noDocument) (Finder.ofDocument document) := by
    unfold Finder.ofDocument
    split
    · exact failsOnly_error rfl
    · exact failsOnly_ok _
  simp only [describe, Traced.outcome_bind, Traced.outcome_lift, Traced.outcome_mapM]
  refine (hdocument.imp fun _ he => .inl he).bind fun f _ => ?_
  refine ((hscopes f).imp fun _ he => .inr (.inl he)).bind fun scopes _ => ?_
  exact failsOnly_mapM fun f' _ => (hscope f').imp fun _ he => .inr he

end Mapper

/-! ## Local failures -/

/-- A path that cannot be followed, a number, language or reference that cannot be used. -/
def Failure.IsLocal : Failure → Prop
  | .mapping (.badPath _) | .shape _ | .value _ => True
  | _ => False

theorem Finder.failsOnly_nodes_isLocal [Library] (f : Finder) (path : String) : FailsOnly Failure.IsLocal (f.nodes path) := by
  unfold nodes
  dsimp only
  split
  · exact failsOnly_error trivial
  · refine failsOnly_mapError (fun e => ?_) _
    cases e <;> trivial

theorem PrefixTable.failsOnly_expand_isLocal (table : PrefixTable) (reference : String) :
    FailsOnly Failure.IsLocal (table.expand reference) := by
  unfold expand
  dsimp only
  split
  · exact failsOnly_ok _
  · split
    · exact failsOnly_ok _
    · split
      · exact failsOnly_ok _
      · split
        · exact failsOnly_ok _
        · exact failsOnly_ok _
        · exact failsOnly_error trivial

/-- Whatever the template and the prefix table are, nothing else goes wrong within the parts of a mapping. -/
theorem ResourceTemplate.confines_isLocal [Library] (t : ResourceTemplate) (table : PrefixTable) :
    t.Confines table Failure.IsLocal where
  value _ := trivial
  expand := table.failsOnly_expand_isLocal
  type _ _ := trivial
  scope _ _ _ f := f.failsOnly_nodes_isLocal _
  lookups f _ _ := Finder.failsOnly_values fun _ => f.failsOnly_nodes_isLocal _

end GraphLift
