import GraphLift.Proofs.Description.Inclusion
import GraphLift.Proofs.Mapping.Derivation
import GraphLift.Proofs.Mapping.Replacement
import GraphLift.Proofs.Template.Circles

/-! # Taking all values instead of the first

    A property or a node template that takes the first value only can be made to take all of them. That adds to what is
    made of a document, and takes nothing away.

    * **Values**: the first value is chosen before values are replaced and formatted, so that it may be dropped. What is
      left of it is still in front of what is left of all of them.
    * **Circles** of references do not depend on it, so that the widened template has a mapper as well.
    * **Descriptions** of the same scopes lie within those of the widened template (`Mapper.within_describe`): the
      instances that are added come after those that were there.
    * **Graphs**: everything that was made is still made, under other blank nodes (`Mapper.mapInto_widened`).
-/

namespace GraphLift

open Outcome

/-! ## Widened templates -/

/-- The property, which may take all values where it took the first only. -/
inductive Property.Widens (p : Property) : Property → Prop where
  | intro (all : Bool) : Widens p { p with multi := p.multi || all }

/-- The properties have the same keys, and may take all values where they took the first only. -/
def WidensAll (properties properties' : List (String × Property)) : Prop :=
  List.Forall₂ (fun p p' => p.1 = p'.1 ∧ p.2.Widens p'.2) properties properties'

/-- The node template, which may have instances for all values where it had one for the first only, and whose properties
    may take all values likewise. -/
inductive NodeTemplate.Widens (n : NodeTemplate) : NodeTemplate → Prop where
  | intro (all : Bool) {properties : List (String × Property)} (h : WidensAll n.properties properties) :
      Widens n { n with multi := n.multi || all, properties }

/-- The template, whose properties and node templates may take all values where they took the first only. -/
structure ResourceTemplate.Widens (t t' : ResourceTemplate) : Prop where
  subject : t.subject = t'.subject
  scopePath : t.scopePath = t'.scopePath
  typeRef : t.typeRef = t'.typeRef
  properties : WidensAll t.properties t'.properties
  nodes : List.Forall₂ NodeTemplate.Widens t.nodes t'.nodes

/-! ## Values -/

/-- The first value only, or all values, is in front of what a wider choice gives. -/
theorem prefix_of_multi {α : Type} (found : List α) (multi all : Bool) :
    (if multi then found else found.take 1) <+: (if multi || all then found else found.take 1) := by
  cases multi with
  | true => exact List.prefix_rfl
  | false =>
    cases all with
    | true => exact List.take_prefix 1 found
    | false => exact List.prefix_rfl

namespace Property

variable {p p' : Property} {f : Finder}

theorem Widens.predicate (h : p.Widens p') : p'.predicate = p.predicate := by
  obtain ⟨all⟩ := h
  rfl

theorem Widens.kind (h : p.Widens p') : p'.kind = p.kind := by
  obtain ⟨all⟩ := h
  rfl

theorem Widens.node (h : p.Widens p') : p'.node = p.node := by
  obtain ⟨all⟩ := h
  rfl

theorem Widens.target? (h : p.Widens p') : p'.target? = p.target? := by
  unfold Property.target?
  rw [h.kind, h.node]

variable [Library]

theorem Widens.baseValues (h : p.Widens p') {bases bases' : List String} (hb : p.baseValues f = .ok bases)
    (hb' : p'.baseValues f = .ok bases') : bases <+: bases' := by
  obtain ⟨all⟩ := h
  unfold Property.baseValues at hb hb'
  cases hconst : p.const with
  | some c =>
    simp only [hconst, Except.ok.injEq] at hb hb'
    rw [← hb, ← hb']
  | none =>
    cases hpath : p.path with
    | none =>
      simp only [hconst, hpath, Except.ok.injEq] at hb hb'
      rw [← hb, ← hb']
    | some path =>
      simp only [hconst, hpath, bind_eq_ok, pure_eq_ok] at hb hb'
      obtain ⟨found, hfound, hb⟩ := hb
      obtain ⟨found', hfound', hb'⟩ := hb'
      have hsame : found = found' := Except.ok.inj (hfound.symm.trans hfound')
      rw [← hb, ← hb', ← hsame]
      exact prefix_of_multi found p.multi all

/-- A value is replaced and formatted alike, whether it is the only one or the first of many. -/
theorem Widens.resolvedValues (h : p.Widens p') {vs vs' : List (Option String)} (hv : p.resolvedValues f = .ok vs)
    (hv' : p'.resolvedValues f = .ok vs') : vs <+: vs' := by
  have hbase : ∀ bases bases', p.baseValues f = .ok bases → p'.baseValues f = .ok bases' → bases <+: bases' :=
    fun _ _ hb hb' => h.baseValues hb hb'
  have hformat : ∀ v, p'.applyFormat f (p'.applyMap v) = p.applyFormat f (p.applyMap v) := by
    obtain ⟨all⟩ := h
    intro v
    rfl
  unfold Property.resolvedValues at hv hv'
  obtain ⟨bases, hb, hv⟩ := bind_eq_ok.mp hv
  obtain ⟨bases', hb', hv'⟩ := bind_eq_ok.mp hv'
  refine FrontOf.prefix_of_eq (FrontOf.mapM (hbase bases bases' hb hb') hv hv' ?_)
  intro v w w' hw hw'
  rw [hformat, hw] at hw'
  exact Except.ok.inj hw'

/-- The values of a property are in front of those of the widened property, those that were dropped being left out. -/
theorem Widens.terms (h : p.Widens p') {table : PrefixTable} {vs vs' : List Value}
    (hv : (p.terms table f).outcome = .ok vs) (hv' : (p'.terms table f).outcome = .ok vs') : vs <+: vs' := by
  have hresolved : ∀ rs rs', p.resolvedValues f = .ok rs → p'.resolvedValues f = .ok rs' → rs <+: rs' :=
    fun _ _ hr hr' => h.resolvedValues hr hr'
  have hkind : p'.kind = p.kind := h.kind
  have hliteral : ∀ v, p'.literal table v = p.literal table v := by
    obtain ⟨all⟩ := h
    intro v
    rfl
  simp only [Property.terms, Traced.outcome_bind, Traced.outcome_lift, bind_eq_ok] at hv hv'
  obtain ⟨rs, hr, hv⟩ := hv
  obtain ⟨rs', hr', hv'⟩ := hv'
  have hkept : rs.filterMap id <+: rs'.filterMap id := (hresolved rs rs' hr hr').filterMap id
  rw [hkind] at hv'
  cases hk : p.kind with
  | nodeRef =>
    rw [hk] at hv
    cases hv
  | literal =>
    rw [hk] at hv hv'
    refine FrontOf.prefix_of_eq (FrontOf.mapM hkept hv hv' ?_)
    intro v w w' hw hw'
    rw [hliteral, hw] at hw'
    exact Except.ok.inj hw'
  | iri =>
    simp only [hk, Traced.outcome_mapM] at hv hv'
    refine FrontOf.prefix_of_eq (FrontOf.mapM (hkept.filter fun v => !Text.isBlank v) hv hv' ?_)
    intro v w w' hw hw'
    rw [hw] at hw'
    exact Except.ok.inj hw'

end Property

/-! ## Node templates -/

namespace NodeTemplate

/-- The candidates of a node template are in front of those of the widened one. -/
theorem Widens.candidates [Library] {n n' : NodeTemplate} (h : n.Widens n') {f : Finder} {bases bases' : List (Option String)}
    (hb : n.candidates f = .ok bases) (hb' : n'.candidates f = .ok bases') : bases <+: bases' := by
  obtain ⟨all, _⟩ := h
  unfold NodeTemplate.candidates at hb hb'
  dsimp only at hb'
  by_cases hconst : (n.kind = .iri && !Text.isMissing n.const) = true
  · rw [if_pos hconst] at hb hb'
    rw [← Except.ok.inj hb, ← Except.ok.inj hb']
  · rw [if_neg hconst] at hb hb'
    by_cases hpath : Text.isMissing n.path = true
    · rw [if_pos hpath] at hb hb'
      rw [← Except.ok.inj hb, ← Except.ok.inj hb']
    · rw [if_neg hpath] at hb hb'
      simp only [bind_eq_ok, pure_eq_ok] at hb hb'
      obtain ⟨found, hfound, hb⟩ := hb
      obtain ⟨found', hfound', hb'⟩ := hb'
      have hsame : found = found' := Except.ok.inj (hfound.symm.trans hfound')
      rw [← hb, ← hb', ← hsame]
      exact (prefix_of_multi found n.multi all).map some

end NodeTemplate

namespace ResourceTemplate

variable {t t' : ResourceTemplate}

/-- The node template that a name stands for is widened in the widened template. -/
theorem Widens.node? (h : t.Widens t') (id : String) : Option.Rel NodeTemplate.Widens (t.node? id) (t'.node? id) :=
  rel_find?_of_forall₂ (fun n n' hn => by cases hn; rfl) h.nodes id

/-! ## Circles -/

/-- The references that lead out of properties lead out of the widened ones. -/
theorem Widens.targets (h : t.Widens t') {properties properties' : List (String × Property)}
    (hall : WidensAll properties properties') : t'.targets properties' = t.targets properties := by
  have hknown : ∀ id, (t'.node? id).isSome = (t.node? id).isSome := by
    intro id
    have hrel := h.node? id
    generalize t.node? id = x at hrel
    generalize t'.node? id = y at hrel
    cases hrel with
    | none => rfl
    | some _ => rfl
  unfold ResourceTemplate.targets
  simp only [hknown]
  induction hall with
  | nil => rfl
  | cons hp _ ih =>
    have htarget := hp.2.target?
    rw [List.filterMap_cons, List.filterMap_cons, ih, htarget]

/-- The widened template has a circle of references only if the template has one. -/
theorem Widens.findCycle (h : t.Widens t') (hnone : t.findCycle = none) : t'.findCycle = none := by
  have htargets : ∀ id, t'.targetsOf id = t.targetsOf id := by
    intro id
    have hrel := h.node? id
    unfold targetsOf
    generalize t.node? id = x at hrel
    generalize t'.node? id = y at hrel
    cases hrel with
    | none => rfl
    | some hn =>
      obtain ⟨_, hproperties⟩ := hn
      exact h.targets hproperties
  have hrefers : t'.RefersTo = t.RefersTo := by
    funext a b
    rw [← eq_iff_iff.mpr mem_targetsOf, ← eq_iff_iff.mpr mem_targetsOf, htargets]
  rw [findCycle_eq_none_iff] at hnone ⊢
  rwa [hrefers]

end ResourceTemplate

/-! ## Descriptions -/

namespace Mapper

variable {t t' : ResourceTemplate} {table : PrefixTable}

/-- The same properties of a widened template expand, and they are widened. -/
theorem widensAll_expandable {properties properties' : List (String × Property)}
    (h : WidensAll properties properties') : WidensAll (table.expandable properties) (table.expandable properties') := by
  unfold PrefixTable.expandable
  induction h with
  | nil => exact .nil
  | @cons p p' _ _ hp _ ih =>
    have hpredicate : p'.2.predicate = p.2.predicate := hp.2.predicate
    rw [List.filterMap_cons, List.filterMap_cons, hpredicate]
    split
    · next hexp =>
      split at hexp
      · cases hexp
      · exact ih
    · next x hexp =>
      split at hexp
      · cases hexp
        exact .cons ⟨rfl, hp.2⟩ ih
      · cases hexp

/-- Statements lie within those of widened properties, if the objects of every property are in front of those of the
    widened one. -/
theorem within_statements {objects objects' : Property → Traced (List Value)}
    {properties properties' : List (String × Property)} (h : WidensAll properties properties')
    (hobjects : ∀ p p' vs vs', p.Widens p' → (objects p).outcome = .ok vs → (objects' p').outcome = .ok vs' →
      FrontOf Value.Within vs vs') {ss ss' : List Statement}
    (hs : (statements table objects properties).outcome = .ok ss)
    (hs' : (statements table objects' properties').outcome = .ok ss') : List.Forall₂ Statement.Within ss ss' := by
  have hleft := forall₂_statements hs
  have hright := forall₂_statements hs'
  -- a statement of an expandable property, and the widened property that it belongs to
  have hexpandable : WidensAll (table.expandable properties) (table.expandable properties') := widensAll_expandable h
  have hmiddle : List.Forall₂ (fun s x' => ∃ x : String × Property,
      (s.predicate = x.1 ∧ (objects x.2).outcome = .ok s.objects) ∧ x.1 = x'.1 ∧ x.2.Widens x'.2)
      ss (table.expandable properties') :=
    hleft.flip.comp hexpandable fun s x x' hsx hxx' => ⟨x, hsx, hxx'⟩
  refine hmiddle.comp hright ?_
  intro s x' s' hx hs'
  obtain ⟨x, ⟨hpredicate, hvs⟩, hkey, hwidens⟩ := hx
  obtain ⟨hpredicate', hvs'⟩ := hs'
  refine ⟨?_, hobjects x.2 x'.2 _ _ hwidens hvs hvs'⟩
  rw [hpredicate, hkey, hpredicate']

/-- With the same identity and the same type, a description lies within another one if its statements do. -/
theorem within_of_parts {x : Except Failure Identity} {y : Except Failure (Option String)} {identity identity' : Identity}
    {type type' : Option String} {ss ss' : List Statement} (hid : x = .ok identity) (hid' : x = .ok identity')
    (htype : y = .ok type) (htype' : y = .ok type') (h : List.Forall₂ Statement.Within ss ss') :
    (Description.mk identity type ss).Within (.mk identity' type' ss') := by
  cases hid.symm.trans hid'
  cases htype.symm.trans htype'
  exact Description.within_mk h

section

variable [Library]

/-- The objects of a property are in front of those of the widened property: by induction on the room that is left for
    instances of node templates. -/
theorem within_objects (h : t.Widens t') (f : Finder) (room : Nat) {p p' : Property} (hp : p.Widens p')
    {vs vs' : List Value} (hvs : (objects t table f room p).outcome = .ok vs)
    (hvs' : (objects t' table f room p').outcome = .ok vs') : FrontOf Value.Within vs vs' := by
  have hrel : ∀ q : Property, Option.Rel NodeTemplate.Widens (q.node.bind t.node?) (q.node.bind t'.node?) :=
    fun q => rel_bind h.node?
  induction room, p using objects_induction t generalizing p' vs vs' with
  | value room p hkind =>
    rw [objects_of_ne hkind] at hvs
    rw [objects_of_ne (hp.kind ▸ hkind)] at hvs'
    exact .of_isPrefix Value.Within.refl (hp.terms hvs hvs')
  | unknown room p hkind hunknown =>
    rw [objects_of_unknown hkind hunknown] at hvs
    rw [objects_of_unknown (hp.kind.trans hkind) (hp.node ▸ eq_none_of_rel (hrel p) hunknown)] at hvs'
    cases hvs
    cases hvs'
    exact .of_isPrefix Value.Within.refl List.prefix_rfl
  | full p n hkind hn =>
    rw [objects_of_full hkind hn] at hvs
    cases hvs
  | node room p n hkind hn ih =>
    obtain ⟨n', hn', hwidens⟩ := exists_of_rel (hrel p) hn
    rw [objects_of_node hkind hn] at hvs
    rw [objects_of_node (hp.kind.trans hkind) (hp.node ▸ hn')] at hvs'
    simp only [Traced.outcome_bind, Traced.outcome_lift, Traced.outcome_mapM, bind_eq_ok] at hvs hvs'
    obtain ⟨bases, hbases, hvs⟩ := hvs
    obtain ⟨bases', hbases', hvs'⟩ := hvs'
    have hfront := hwidens.candidates hbases hbases'
    obtain ⟨all, hproperties⟩ := hwidens
    -- the instances for the same candidate are the same, but for what is said of them
    refine FrontOf.mapM hfront hvs hvs' ?_
    intro base v v' hv hv'
    simp only [bind_eq_ok] at hv hv'
    obtain ⟨identity, hid, type, htype, said, hsaid, hv⟩ := hv
    obtain ⟨identity', hid', type', htype', said', hsaid', hv'⟩ := hv'
    cases hv
    cases hv'
    refine .resource (within_of_parts hid hid' htype htype' ?_)
    exact within_statements hproperties (fun q q' ws ws' hq hws hws' => ih q hq hws hws') hsaid hsaid'

theorem within_describeScope {m m' : Mapper} (h : m.template.Widens m'.template) (htable : m.table = m'.table)
    {f : Finder} {d d' : Description} (hd : (m.describeScope f).outcome = .ok d)
    (hd' : (m'.describeScope f).outcome = .ok d') : d.Within d' := by
  unfold describeScope at hd hd'
  rw [← h.subject, ← h.typeRef, ← htable] at hd'
  simp only [Traced.outcome_bind, bind_eq_ok] at hd hd'
  obtain ⟨identity, hid, type, htype, said, hsaid, hd⟩ := hd
  obtain ⟨identity', hid', type', htype', said', hsaid', hd'⟩ := hd'
  cases hd
  cases hd'
  refine within_of_parts hid hid' htype htype' ?_
  exact within_statements h.properties (fun p p' vs vs' hp => within_objects h f maxDepth hp) hsaid hsaid'

/-- The descriptions of a document lie within those by the widened template, one by one. -/
theorem within_describe {m m' : Mapper} (h : m.template.Widens m'.template) (htable : m.table = m'.table)
    {document : Json} {ds ds' : List Description} (hds : (m.describe document).outcome = .ok ds)
    (hds' : (m'.describe document).outcome = .ok ds') : List.Forall₂ Description.Within ds ds' := by
  obtain ⟨scopes, hscopes, hall⟩ := describe_eq_ok hds
  obtain ⟨scopes', hscopes', hall'⟩ := describe_eq_ok hds'
  have hsame : scopes = scopes' := by
    refine hscopes.unique ?_
    unfold AreScopes at hscopes' ⊢
    rwa [h.scopePath]
  subst hsame
  exact hall.flip.comp hall' fun d f d' hd hd' => within_describeScope h htable hd hd'

/-! ## Graphs -/

/-- **Taking all values only adds.** A template is accepted as well when properties and node templates, at any level, are
    made to take all values. If both of them map a document into a graph of its own, there is an injective renaming of
    blank nodes that takes every subject to the subject of the same scope, and every triple to one that the widened
    template makes. -/
theorem mapInto_widened (m : Mapper) {t' : ResourceTemplate} (h : m.template.Widens t') :
    ∃ hacyclic : t'.findCycle = none, ∀ (next : Nat) (document : Json) (r r' : Mapped),
      (m.mapInto {} next document).outcome = .ok r →
      ((⟨t', m.table, hacyclic⟩ : Mapper).mapInto {} next document).outcome = .ok r' →
      ∃ σ : Nat → Nat, Function.Injective σ ∧ r'.subjects = r.subjects.map (Node.rename σ) ∧
        ∀ t, r.graph.holds t = true → r'.graph.holds (t.rename σ) = true := by
  refine ⟨h.findCycle m.acyclic, ?_⟩
  intro next document r r' hr hr'
  obtain ⟨ds, hds, rfl⟩ := mapInto_eq_ok.mp hr
  obtain ⟨ds', hds', rfl⟩ := mapInto_eq_ok.mp hr'
  let m' : Mapper := ⟨t', m.table, h.findCycle m.acyclic⟩
  have hwidens : m.template.Widens m'.template := h
  have hwithin : List.Forall₂ Description.Within ds ds' := within_describe hwidens rfl hds hds'
  obtain ⟨σ, hinjective, hsubjects, htriples⟩ := exists_injective_renaming hwithin next
  refine ⟨σ, hinjective, hsubjects, ?_⟩
  intro t ht
  have hnothing : ¬ ({} : Graph).holds t = true := by simp [Graph.holds]
  obtain ⟨u, hu, hsame⟩ := (Graph.holds_insertAll.mp ht).resolve_left hnothing
  have hrenamed : (t.rename σ).same (u.rename σ) = true := by
    rw [Triple.same_iff, Triple.folded_rename, Triple.folded_rename, Triple.same_iff.mp hsame]
  exact Graph.holds_insertAll.mpr (.inr ⟨u.rename σ, htriples u hu, hrenamed⟩)

/-! ## A list of two members -/

end

/-- A mapper that gives a list its first member as a part, or all of its members, and then a further part. -/
def ofParts (all : Bool) : Mapper where
  template := {
    properties := [
      ("member", { predicate := "http://e/part", kind := .nodeRef, node := some "member" }),
      ("rest", { predicate := "http://e/part", kind := .nodeRef, node := some "rest" })]
    nodes := [{ id := "member", path := some "$[*]", multi := all }, { id := "rest" }] }
  table := .ofTexts []
  acyclic := by cases all <;> decide

/-- A resource with some parts, and then a further part. -/
def withParts (count : Nat) : Description :=
  .mk .fresh none [
    .mk "http://e/part" (List.replicate count (.resource (.bare .fresh))),
    .mk "http://e/part" [.resource (.bare .fresh)]]

theorem describeScope_ofParts (all : Bool) :
    ((ofParts all).describeScope (.ofTexts ["one", "two"])).outcome = .ok (withParts (if all then 2 else 1)) := by
  have hvalues : (Finder.ofTexts ["one", "two"]).values (some "$[*]") = .ok ["one", "two"] :=
    Finder.values_children rfl
  have hcandidates : NodeTemplate.candidates { id := "member", path := some "$[*]", multi := all }
      (.ofTexts ["one", "two"]) = .ok ((if all then ["one", "two"] else ["one"]).map some) := by
    unfold NodeTemplate.candidates
    simp only [hvalues]
    cases all <;> rfl
  have hnode : (some "member").bind (ofParts all).template.node? =
      some { id := "member", path := some "$[*]", multi := all } := rfl
  have hobjects : (objects (ofParts all).template (.ofTexts []) (.ofTexts ["one", "two"]) maxDepth
      { predicate := "http://e/part", kind := .nodeRef, node := some "member" }).outcome =
      .ok (List.replicate (if all then 2 else 1) (.resource (.bare .fresh))) := by
    unfold objects maxDepth
    rw [if_pos rfl]
    simp only [hnode, Traced.outcome_bind, Traced.outcome_lift, hcandidates]
    cases all <;> rfl
  have hpredicate : (PrefixTable.ofTexts []).expand "http://e/part" = .ok (some "http://e/part") := rfl
  have hsaid : (statements (.ofTexts []) (objects (ofParts all).template (.ofTexts []) (.ofTexts ["one", "two"])
      maxDepth) (ofParts all).template.properties).outcome = .ok (withParts (if all then 2 else 1)).statements := by
    show (statements _ _ [("member", { predicate := "http://e/part", kind := .nodeRef, node := some "member" }),
      _]).outcome = _
    unfold statements statement
    simp only [Traced.outcome_bind, Traced.outcome_lift, hpredicate]
    show (((objects _ _ _ maxDepth _ >>= _).outcome) >>= _) = _
    rw [Traced.outcome_bind, hobjects]
    rfl
  have hsubject : (ofParts all).template.subject = {} := rfl
  have htable : (ofParts all).table = .ofTexts [] := rfl
  unfold describeScope
  rw [hsubject, htable]
  simp only [Traced.outcome_bind, hsaid]
  rfl

/-- The list gets its blank nodes in the order in which its parts are walked. -/
theorem mapInto_ofParts (all : Bool) :
    ((ofParts all).mapInto {} 0 (.array [.text "one", .text "two"])).outcome =
      .ok ⟨⟨(if all then [1, 2, 3] else [1, 2]).map fun n => ⟨.blank 0, "http://e/part", .node (.blank n)⟩⟩,
        [.blank 0], if all then 4 else 3⟩ := by
  have hdescribe : ((ofParts all).describe (.array [.text "one", .text "two"])).outcome =
      .ok [withParts (if all then 2 else 1)] := by
    show ([Finder.ofTexts ["one", "two"]].mapM (ofParts all).describeScope).outcome = _
    rw [Traced.outcome_mapM, List.mapM_cons, describeScope_ofParts]
    rfl
  refine mapInto_eq_ok.mpr ⟨_, hdescribe, ?_⟩
  cases all <;> rfl

/-- The list has two parts by the narrow template and three by the widened one. The last of them is the second node that
    is made by the narrow template, and the third by the widened one. -/
theorem mapInto_widened_ofParts :
    ∃ r r', ((ofParts false).mapInto {} 0 (.array [.text "one", .text "two"])).outcome = .ok r ∧
      ((ofParts true).mapInto {} 0 (.array [.text "one", .text "two"])).outcome = .ok r' ∧
      r.graph.size = 2 ∧ r'.graph.size = 3 ∧
      ∃ σ : Nat → Nat, Function.Injective σ ∧ r'.subjects = r.subjects.map (Node.rename σ) ∧
        ∀ t, r.graph.holds t = true → r'.graph.holds (t.rename σ) = true := by
  have hproperty : ∀ key p, WidensAll [(key, p)] [(key, p)] := by
    intro key p
    have hp : p.Widens { p with multi := p.multi || false } := .intro false
    rw [Bool.or_false] at hp
    exact .cons ⟨rfl, hp⟩ .nil
  have hwidens : (ofParts false).template.Widens (ofParts true).template := by
    refine ⟨rfl, rfl, rfl, ?_, ?_⟩
    · exact .cons (List.forall₂_cons.mp (hproperty _ _)).1 (hproperty _ _)
    · exact .cons (.intro true .nil) (.cons (.intro false .nil) .nil)
  obtain ⟨_, h⟩ := mapInto_widened (ofParts false) hwidens
  exact ⟨_, _, mapInto_ofParts false, mapInto_ofParts true, rfl, rfl,
    h 0 _ _ _ (mapInto_ofParts false) (mapInto_ofParts true)⟩

end Mapper

end GraphLift
