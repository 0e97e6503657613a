import GraphLift.Mapping.Mapper
import GraphLift.Proofs.Outcome

/-! # What a mapping reports about node templates

    A mapping reports a reference to a node template that does not exist whenever it comes to one. It comes to properties
    of the template only, whatever the document is and however deep instances are nested.

    * **Reports** (`Traced.ReportsOnly`) are those of the parts of a run, also if it fails.
    * **Tables** (`ResourceTemplate.tables`) are where properties stand: that of the resource, and one for every node
      template. Following a reference leads from one table to another one, so that a mapping never leaves them.
    * **Mapping** (`Mapper.dangles_of_mem_records`): a report of an unknown node template is about a property of one of
      these tables, and that property is dangling.
-/

namespace GraphLift

/-! ## Reports of runs -/

namespace Traced

variable {α β : Type} {P : Event → Prop}

/-- All that the run reports is of a certain kind, whatever comes out of it. -/
def ReportsOnly (P : Event → Prop) (x : Traced α) : Prop :=
  ∀ r ∈ x.records, P r.event

theorem reportsOnly_pure (a : α) : (pure a : Traced α).ReportsOnly P :=
  fun _ hr => absurd hr List.not_mem_nil

theorem reportsOnly_lift (x : Except Failure α) : (lift x).ReportsOnly P :=
  fun _ hr => absurd hr List.not_mem_nil

theorem reportsOnly_throw (e : Failure) : (throw e : Traced α).ReportsOnly P :=
  fun _ hr => absurd hr List.not_mem_nil

theorem reportsOnly_report {e : Event} (h : P e) : (report e).ReportsOnly P := by
  intro r hr
  rw [List.mem_singleton.mp hr]
  exact h

/-- A sequence reports what its first run reports, and what its second run does if it gets that far. -/
theorem ReportsOnly.bind {x : Traced α} {f : α → Traced β} (hx : x.ReportsOnly P) (hf : ∀ a, (f a).ReportsOnly P) :
    (x >>= f).ReportsOnly P := by
  intro r hr
  cases h : x.outcome with
  | error e =>
    rw [records_bind_of_error h] at hr
    exact hx r hr
  | ok a =>
    rw [records_bind_of_ok h] at hr
    rcases List.mem_append.mp hr with hr | hr
    · exact hx r hr
    · exact hf a r hr

theorem reportsOnly_mapM {f : α → Traced β} (hf : ∀ a, (f a).ReportsOnly P) (l : List α) :
    (l.mapM f).ReportsOnly P := by
  induction l with
  | nil => exact reportsOnly_pure []
  | cons a l ih =>
    rw [List.mapM_cons]
    exact (hf a).bind fun b => ih.bind fun bs => reportsOnly_pure _

end Traced

open Traced

/-! ## Tables of properties -/

namespace ResourceTemplate

/-- The tables of properties of a template, each with its place: that of the resource, and those of the node templates. -/
def tables (t : ResourceTemplate) : List (String × List (String × Property)) :=
  ("resource", t.properties) :: t.nodes.map fun n => ("nodes." ++ n.id, n.properties)

/-- The property stands under a key in the table at a place. -/
def HasProperty (t : ResourceTemplate) (place key : String) (p : Property) : Prop :=
  ∃ properties, (place, properties) ∈ t.tables ∧ (key, p) ∈ properties

/-- A property of the template refers to a node template that does not exist. -/
structure Dangles (t : ResourceTemplate) (place key : String) (p : Property) : Prop where
  stands : t.HasProperty place key p
  kind : p.kind = .nodeRef
  unknown : p.node.bind t.node? = none

/-- The properties of a node template that is found stand in one of the tables. -/
theorem hasProperty_of_node? {t : ResourceTemplate} {id : String} {n : NodeTemplate} (hn : t.node? id = some n)
    {key : String} {p : Property} (hp : (key, p) ∈ n.properties) : ∃ place, t.HasProperty place key p := by
  have hmem : n ∈ t.nodes := List.mem_of_find?_eq_some hn
  exact ⟨_, n.properties, List.mem_cons_of_mem _ (List.mem_map.mpr ⟨n, hmem, rfl⟩), hp⟩

end ResourceTemplate

/-! ## Reports of a mapping -/

/-- If the event is about an unknown node template, then a dangling property of the template names it. -/
def ResourceTemplate.Accounts (t : ResourceTemplate) (e : Event) : Prop :=
  ∀ node predicate, e = .nodeUnknown node predicate →
    ∃ place key p, t.Dangles place key p ∧ p.node = node ∧ p.predicate = predicate

namespace Mapper

variable {t : ResourceTemplate} {table : PrefixTable}

/-- Events other than that of an unknown node template need no account. -/
theorem accounts_of_ne {e : Event} (h : ∀ node predicate, e ≠ .nodeUnknown node predicate) : t.Accounts e :=
  fun node predicate heq => absurd heq (h node predicate)

theorem accounts_of_dangles {place key : String} {p : Property} (h : t.Dangles place key p) :
    t.Accounts (.nodeUnknown p.node p.predicate) := by
  intro node predicate heq
  cases heq
  exact ⟨place, key, p, h, rfl, rfl⟩

theorem reportsOnly_ofText (text : Option String) : (Identity.ofText text).ReportsOnly t.Accounts := by
  unfold Identity.ofText
  cases text with
  | none => exact reportsOnly_pure _
  | some s =>
    dsimp only
    split
    · exact reportsOnly_pure _
    · split
      · exact reportsOnly_pure _
      · exact (reportsOnly_report (accounts_of_ne (by simp))).bind fun _ => reportsOnly_pure _

theorem reportsOnly_typeIri (reference : Option Reference) : (typeIri table reference).ReportsOnly t.Accounts := by
  unfold typeIri
  split
  · exact reportsOnly_pure _
  · exact reportsOnly_throw _
  · refine (reportsOnly_lift _).bind fun iri => ?_
    split
    · exact (reportsOnly_report (accounts_of_ne (by simp))).bind fun _ => reportsOnly_pure _
    · exact reportsOnly_pure _

/-- The statements of properties report what the objects of these properties do, and predicates that do not expand. -/
theorem reportsOnly_statements {objects : Property → Traced (List Value)} {properties : List (String × Property)}
    (h : ∀ p ∈ properties, (objects p.2).ReportsOnly t.Accounts) :
    (statements table objects properties).ReportsOnly t.Accounts := by
  induction properties with
  | nil => exact reportsOnly_pure _
  | cons p rest ih =>
    obtain ⟨key, p⟩ := p
    have hhead : (statement table objects key p).ReportsOnly t.Accounts := by
      unfold statement
      refine (reportsOnly_lift _).bind fun expanded => ?_
      cases expanded with
      | none => exact (reportsOnly_report (accounts_of_ne (by simp))).bind fun _ => reportsOnly_pure _
      | some predicate => exact (h _ List.mem_cons_self).bind fun _ => reportsOnly_pure _
    have hrest := ih fun q hq => h q (List.mem_cons_of_mem _ hq)
    exact hhead.bind fun _ => hrest.bind fun _ => reportsOnly_pure _

variable [Library]

theorem reportsOnly_identify (n : NodeTemplate) (base : Option String) (f : Finder) :
    (n.identify base f).ReportsOnly t.Accounts := by
  have hiri : (n.iriFor base f).ReportsOnly t.Accounts := by
    unfold NodeTemplate.iriFor
    split
    · exact reportsOnly_pure _
    · refine (reportsOnly_lift _).bind fun iri => ?_
      split
      · exact (reportsOnly_report (accounts_of_ne (by simp))).bind fun _ => reportsOnly_pure _
      · exact reportsOnly_pure _
  unfold NodeTemplate.identify
  split
  · exact reportsOnly_pure _
  · exact hiri.bind fun text => reportsOnly_ofText text

theorem reportsOnly_terms (p : Property) (f : Finder) : (p.terms table f).ReportsOnly t.Accounts := by
  unfold Property.terms
  refine (reportsOnly_lift _).bind fun resolved => ?_
  dsimp only
  split
  · exact reportsOnly_lift _
  · exact reportsOnly_mapM (fun v => (reportsOnly_ofText _).bind fun _ => reportsOnly_pure _) _
  · exact reportsOnly_throw _

/-- What is reported along with the objects of a property of the template: by induction on the room that is left, as the
    properties of the node template that it refers to stand in the template as well. -/
theorem reportsOnly_objects (f : Finder) (room : Nat) {place key : String} {p : Property}
    (hp : t.HasProperty place key p) : (objects t table f room p).ReportsOnly t.Accounts := by
  induction room, p using objects_induction t generalizing place key with
  | value room p hkind =>
    rw [objects_of_ne hkind]
    exact reportsOnly_terms p f
  | unknown room p hkind hnode =>
    rw [objects_of_unknown hkind hnode]
    exact (reportsOnly_report (accounts_of_dangles ⟨hp, hkind, hnode⟩)).bind fun _ => reportsOnly_pure _
  | full p n hkind hnode =>
    rw [objects_of_full hkind hnode]
    exact reportsOnly_throw _
  | node room p n hkind hnode ih =>
    obtain ⟨id, _, hfound⟩ := Option.bind_eq_some_iff.mp hnode
    have hsaid : (statements table (objects t table f room) n.properties).ReportsOnly t.Accounts := by
      refine reportsOnly_statements fun q hq => ?_
      obtain ⟨inner, hq⟩ := ResourceTemplate.hasProperty_of_node? hfound hq
      exact ih q.2 hq
    rw [objects_of_node hkind hnode]
    refine (reportsOnly_lift _).bind fun bases => reportsOnly_mapM (fun base => ?_) bases
    refine (reportsOnly_identify n base f).bind fun identity => (reportsOnly_typeIri _).bind fun type => ?_
    exact hsaid.bind fun said => reportsOnly_pure _

/-- Whatever a mapping reports, an unknown node template is that of a dangling property of the template. -/
theorem dangles_of_mem_records {m : Mapper} {g : Graph} {next : Nat} {document : Json} {r : Record}
    (hr : r ∈ (m.mapInto g next document).records) {node : Option String} {predicate : String}
    (hevent : r.event = .nodeUnknown node predicate) :
    ∃ place key p, m.template.Dangles place key p ∧ p.node = node ∧ p.predicate = predicate := by
  have hscope : ∀ f, (m.describeScope f).ReportsOnly m.template.Accounts := by
    intro f
    unfold describeScope SubjectRule.identity
    refine ((reportsOnly_lift _).bind fun text => reportsOnly_ofText text).bind fun identity => ?_
    refine (reportsOnly_typeIri _).bind fun type => ?_
    refine (reportsOnly_statements fun p hp => ?_).bind fun said => reportsOnly_pure _
    exact reportsOnly_objects f maxDepth ⟨m.template.properties, List.mem_cons_self, hp⟩
  have hscopes : ∀ f, (m.scopes f).ReportsOnly m.template.Accounts := by
    intro f
    unfold scopes
    split
    · exact reportsOnly_pure _
    · refine (reportsOnly_lift _).bind fun found => ?_
      split
      · exact (reportsOnly_report (accounts_of_ne (by simp))).bind fun _ => reportsOnly_pure _
      · exact reportsOnly_pure _
  have hdescribe : (m.describe document).ReportsOnly m.template.Accounts := by
    unfold describe
    exact (reportsOnly_lift _).bind fun f => (hscopes f).bind fun scopes => reportsOnly_mapM hscope scopes
  have hmap : (m.mapInto g next document).ReportsOnly m.template.Accounts :=
    hdescribe.bind fun ds => reportsOnly_pure _
  exact hmap r hr node predicate hevent

end Mapper

end GraphLift
