import GraphLift.Proofs.Mapping.Derivation
import GraphLift.Proofs.Mapping.Failures
import GraphLift.Proofs.Mapping.Steps
import GraphLift.Proofs.Mapping.Writing

/-! # How deep node templates may be nested

    The instances of node templates are nested up to `maxDepth` levels below the subject of a scope, and a guard raises
    where a template would go on.

    * **Levels** (`Mapper.Occurs.level_le`): a mapping that succeeds describes nothing beyond that.
    * **Chains that are walked** (`ResourceTemplate.Unfolds`): all of their predicates expand, and each of their node
      templates has exactly one instance. Where such a chain is too long, nothing comes out
      (`Mapper.not_succeeds_of_unfolds`).
    * **More room** (`Mapper.unlessDeep_objects`) changes nothing, except where the guard raises.
    * **Mapping** (`Mapper.mapInto_nesting`): the guard raises for chains of more than `maxDepth` node templates, and for
      no others.
-/

namespace GraphLift

open Outcome

/-! ## Levels -/

/-- How many node templates an occurrence is below the subject of its scope. A place has one number for the scope and two
    for every level. -/
def Occurrence.level (r : Occurrence) : Nat :=
  r.place.length / 2

namespace Mapper

variable [Library] {m : Mapper} {t : ResourceTemplate} {table : PrefixTable}

/-- Where the instances of a node template are the objects of a property, there is room for them, and with one level less
    all of them are described. -/
theorem succeeds_of_objects {f : Finder} {room k : Nat} {p : Property} {n : NodeTemplate} {base : Option String}
    {bases : List (Option String)} (hkind : p.kind = .nodeRef) (hnode : p.node.bind t.node? = some n)
    (hbases : n.candidates f = .ok bases) (hbase : bases[k]? = some base)
    (h : Succeeds (objects t table f room p).outcome) :
    ∃ less, room = less + 1 ∧ Succeeds (statements table (objects t table f less) n.properties).outcome := by
  obtain ⟨vs, hvs⟩ := h
  cases room with
  | zero =>
    rw [objects_of_full hkind hnode] at hvs
    cases hvs
  | succ room =>
    rw [objects_of_node hkind hnode] at hvs
    simp only [Traced.outcome_bind, Traced.outcome_lift, Traced.outcome_mapM, bind_eq_ok] at hvs
    obtain ⟨bases', hbases', hvs⟩ := hvs
    have hsame : bases = bases' := Except.ok.inj (hbases.symm.trans hbases')
    subst hsame
    obtain ⟨v, _, hv⟩ := (mapM_eq_ok.mp hvs).exists_right hbase
    simp only [bind_eq_ok] at hv
    obtain ⟨_, _, _, _, said, hsaid, _⟩ := hv
    exact ⟨room, rfl, said, hsaid⟩

/-- Where everything is described, an occurrence is described with the room that is left on its level. -/
theorem Occurs.exists_statements {scopes : List Finder} {ds : List Description} (hds : m.DescribesAll scopes ds)
    {r : Occurrence} (h : m.Occurs scopes r) :
    ∃ room, r.place.length + 2 * room = 2 * maxDepth + 1 ∧
      Succeeds (statements m.table (objects m.template m.table r.scope room) r.properties).outcome := by
  induction h with
  | @subject i f identity hf hid =>
    obtain ⟨d, _, hdesc⟩ := hds.exists_right hf
    simp only [describeScope, Traced.outcome_bind, bind_eq_ok] at hdesc
    obtain ⟨_, _, _, _, said, hsaid, _⟩ := hdesc
    exact ⟨maxDepth, by rw [List.length_singleton, Nat.add_comm], said, hsaid⟩
  | @within r r' j k predicate p _ hprop hinst ih =>
    obtain ⟨room, hroom, ss, hss⟩ := ih
    obtain ⟨s, _, _, hobjects⟩ := (forall₂_statements hss).exists_right hprop
    obtain ⟨hkind, hnode, hbases, hbase, _⟩ := hinst
    obtain ⟨less, rfl, hsaid⟩ := succeeds_of_objects hkind hnode hbases hbase ⟨_, hobjects⟩
    refine ⟨less, ?_, hsaid⟩
    simp only [List.length_append, List.length_cons, List.length_nil]
    omega

/-- No occurrence that is described is beyond the depth that is allowed. -/
theorem Occurs.level_le {scopes : List Finder} {ds : List Description} (hds : m.DescribesAll scopes ds)
    {r : Occurrence} (h : m.Occurs scopes r) : r.level ≤ maxDepth := by
  obtain ⟨room, hroom, _⟩ := h.exists_statements hds
  unfold Occurrence.level
  omega

end Mapper

/-! ## Chains that are walked -/

/-- For every document, the node template has one instance in every scope. -/
def NodeTemplate.IsSingle (n : NodeTemplate) : Prop :=
  (n.kind = .anonymous ∧ Text.isMissing n.path = true) ∨ (n.kind = .iri ∧ Text.isMissing n.const = false)

theorem NodeTemplate.IsSingle.candidates [Library] {n : NodeTemplate} (h : n.IsSingle) (f : Finder) :
    n.candidates f = .ok [none] := by
  unfold NodeTemplate.candidates
  rcases h with ⟨hkind, hpath⟩ | ⟨hkind, hconst⟩
  · simp [hkind, hpath]
  · simp [hkind, hconst]

/-- A chain of node templates that is walked from properties on: the properties that lead along it have predicates that
    expand, and its node templates have one instance each. -/
inductive ResourceTemplate.Unfolds (t : ResourceTemplate) (table : PrefixTable) :
    List (String × Property) → List String → Prop where
  | stop (properties : List (String × Property)) : Unfolds t table properties []
  | step {properties : List (String × Property)} {key predicate id : String} {p : Property} {n : NodeTemplate}
      {chain : List String} (property : (key, p) ∈ properties)
      (expands : table.expand p.predicate = .ok (some predicate)) (kind : p.kind = .nodeRef) (node : p.node = some id)
      (found : t.node? id = some n) (single : n.IsSingle) (rest : Unfolds t table n.properties chain) :
      Unfolds t table properties (id :: chain)

namespace Mapper

variable {t : ResourceTemplate} {table : PrefixTable}

/-- Statements come out well only if the objects do of every property whose predicate expands. -/
theorem succeeds_of_statements {objects : Property → Traced (List Value)} {properties : List (String × Property)}
    (h : Succeeds (statements table objects properties).outcome) {key predicate : String} {p : Property}
    (hp : (key, p) ∈ properties) (hexp : table.expand p.predicate = .ok (some predicate)) :
    Succeeds (objects p).outcome := by
  obtain ⟨ss, hss⟩ := h
  have hmem : (predicate, p) ∈ table.expandable properties := PrefixTable.mem_expandable.mpr ⟨key, hp, hexp⟩
  obtain ⟨j, hj⟩ := List.getElem?_of_mem hmem
  obtain ⟨s, _, _, hobjects⟩ := (forall₂_statements hss).exists_right hj
  exact ⟨s.objects, hobjects⟩

variable [Library]

/-- Along a chain that is longer than there is room for, nothing comes out. -/
theorem not_succeeds_of_unfolds {properties : List (String × Property)} {chain : List String}
    (h : t.Unfolds table properties chain) {room : Nat} (hroom : room < chain.length) (f : Finder) :
    ¬ Succeeds (statements table (objects t table f room) properties).outcome := by
  induction h generalizing room with
  | stop properties => exact absurd hroom (Nat.not_lt_zero room)
  | @step properties key predicate id p n chain hproperty hexpands hkind hnode hfound hsingle _ ih =>
    intro hsucceeds
    have hobjects := succeeds_of_statements hsucceeds hproperty hexpands
    have hbind : p.node.bind t.node? = some n := Option.bind_eq_some_iff.mpr ⟨id, hnode, hfound⟩
    -- the only instance would have to be described, and with it the rest of the chain
    obtain ⟨less, rfl, hsaid⟩ :=
      succeeds_of_objects hkind hbind (hsingle.candidates f) List.getElem?_cons_zero hobjects
    rw [List.length_cons] at hroom
    exact ih (Nat.lt_of_succ_lt_succ hroom) hsaid

end Mapper

/-! ## More room -/

/-- Two runs are the same, unless the guard raises in the first one. -/
def Outcome.UnlessDeep {α : Type} (x y : Except Failure α) : Prop :=
  (∃ id, x = .error (.mapping (.tooDeep maxDepth id))) ∨ x = y

namespace Outcome

variable {α β : Type}

theorem UnlessDeep.refl (x : Except Failure α) : UnlessDeep x x :=
  .inr rfl

theorem UnlessDeep.bind {x y : Except Failure α} {f g : α → Except Failure β} (hxy : UnlessDeep x y)
    (hfg : ∀ a, UnlessDeep (f a) (g a)) : UnlessDeep (x >>= f) (y >>= g) := by
  rcases hxy with ⟨id, rfl⟩ | rfl
  · exact .inl ⟨id, rfl⟩
  · cases x with
    | error e => exact .inr rfl
    | ok a => exact hfg a

theorem unlessDeep_mapM {f g : α → Except Failure β} (hfg : ∀ a, UnlessDeep (f a) (g a)) (l : List α) :
    UnlessDeep (l.mapM f) (l.mapM g) := by
  induction l with
  | nil => exact .refl _
  | cons a l ih =>
    rw [List.mapM_cons, List.mapM_cons]
    exact (hfg a).bind fun b => ih.bind fun bs => .refl _

end Outcome

namespace Mapper

variable {t : ResourceTemplate} {table : PrefixTable}

theorem unlessDeep_statements {objects objects' : Property → Traced (List Value)}
    (h : ∀ p, UnlessDeep (objects p).outcome (objects' p).outcome) (properties : List (String × Property)) :
    UnlessDeep (statements table objects properties).outcome (statements table objects' properties).outcome := by
  induction properties with
  | nil => exact .refl _
  | cons kp rest ih =>
    obtain ⟨key, p⟩ := kp
    have hstatement : UnlessDeep (statement table objects key p).outcome (statement table objects' key p).outcome := by
      unfold statement
      simp only [Traced.outcome_bind]
      refine (UnlessDeep.refl _).bind fun predicate => ?_
      cases predicate with
      | none => exact .refl _
      | some predicate =>
        simp only [Traced.outcome_bind]
        exact (h p).bind fun vs => .refl _
    simp only [statements, Traced.outcome_bind]
    exact hstatement.bind fun head => ih.bind fun tail => .refl _

variable [Library]

/-- With more room there are the same objects, unless the guard raises. -/
theorem unlessDeep_objects (f : Finder) {room room' : Nat} (hroom : room ≤ room') (p : Property) :
    UnlessDeep (objects t table f room p).outcome (objects t table f room' p).outcome := by
  induction room, p using objects_induction t generalizing room' with
  | value room p hkind =>
    rw [objects_of_ne hkind, objects_of_ne hkind]
    exact .refl _
  | unknown room p hkind hnode =>
    rw [objects_of_unknown hkind hnode, objects_of_unknown hkind hnode]
    exact .refl _
  | full p n hkind hnode =>
    rw [objects_of_full hkind hnode]
    exact .inl ⟨n.id, rfl⟩
  | node room p n hkind hnode ih =>
    obtain ⟨room', rfl⟩ : ∃ more, room' = more + 1 := ⟨room' - 1, by omega⟩
    have hsaid : UnlessDeep (statements table (objects t table f room) n.properties).outcome
        (statements table (objects t table f room') n.properties).outcome :=
      unlessDeep_statements (fun q => ih q (Nat.le_of_succ_le_succ hroom)) n.properties
    rw [objects_of_node hkind hnode, objects_of_node hkind hnode]
    simp only [Traced.outcome_bind, Traced.outcome_mapM]
    refine (UnlessDeep.refl _).bind fun bases => unlessDeep_mapM (fun base => ?_) bases
    refine (UnlessDeep.refl _).bind fun identity => (UnlessDeep.refl _).bind fun type => ?_
    exact hsaid.bind fun said => .refl _

variable (m : Mapper)

/-- What a template says of the resources in a document, when instances of node templates may be nested `room` levels
    deep. -/
def describeWithin (room : Nat) (document : Json) : Traced (List Description) := do
  let f ← Traced.lift (Finder.ofDocument document)
  (← m.scopes f).mapM fun f => do
    let identity ← m.template.subject.identity f
    let type ← typeIri m.table m.template.typeRef
    let said ← statements m.table (objects m.template m.table f room) m.template.properties
    return .mk identity type said

theorem describeWithin_maxDepth (document : Json) : m.describeWithin maxDepth document = m.describe document := rfl

/-- With more room a document is described in the same way, unless the guard raises. -/
theorem unlessDeep_describe {room : Nat} (hroom : maxDepth ≤ room) (document : Json) :
    UnlessDeep (m.describe document).outcome (m.describeWithin room document).outcome := by
  rw [← describeWithin_maxDepth]
  unfold describeWithin
  simp only [Traced.outcome_bind, Traced.outcome_mapM]
  refine (UnlessDeep.refl _).bind fun f => (UnlessDeep.refl _).bind fun scopes => unlessDeep_mapM (fun f' => ?_) scopes
  refine (UnlessDeep.refl _).bind fun identity => (UnlessDeep.refl _).bind fun type => ?_
  exact (unlessDeep_statements (fun p => unlessDeep_objects f' hroom p) _).bind fun said => .refl _

/-! ## Mapping -/

/-- A mapping fails as its descriptions do. -/
theorem mapInto_eq_error (g : Graph) (next : Nat) (document : Json) (e : Failure) :
    (m.mapInto g next document).outcome = .error e ↔ (m.describe document).outcome = .error e := by
  unfold mapInto
  rw [Traced.outcome_bind, bind_eq_error]
  constructor
  · intro h
    rcases h with h | ⟨ds, _, h⟩
    · exact h
    · cases h
  · exact .inl

variable {m}

/-- A mapping that succeeds describes no occurrence beyond the depth that is allowed. -/
theorem level_le_of_mapInto {g : Graph} {next : Nat} {document : Json} {r : Mapped}
    (h : (m.mapInto g next document).outcome = .ok r) {scopes : List Finder} (hscopes : m.AreScopes document scopes)
    {occurrence : Occurrence} (hoccurs : m.Occurs scopes occurrence) : occurrence.level ≤ maxDepth := by
  obtain ⟨ds, hds, _⟩ := mapInto_eq_ok.mp h
  obtain ⟨scopes', hscopes', hall⟩ := describe_eq_ok hds
  cases hscopes.unique hscopes'
  exact hoccurs.level_le hall

/-- The guard raises only if a chain of references visits more node templates than are allowed. -/
theorem mapInto_ne_tooDeep (h : ∀ chain, m.template.Leads m.template.properties chain → chain.length ≤ maxDepth)
    (g : Graph) (next : Nat) (document : Json) (limit : Nat) (id : String) :
    (m.mapInto g next document).outcome ≠ .error (.mapping (.tooDeep limit id)) := by
  intro hfails
  have hdescribe := failsOnly_describe (m.template.confines_isLocal m.table) document
  rcases hdescribe _ ((mapInto_eq_error m g next document _).mp hfails) with hnull | hlocal | hdeep
  · cases hnull
  · exact hlocal
  · obtain ⟨chain, _, _, hleads, hlength, _⟩ := hdeep
    have hshort := h chain hleads
    omega

/-- A document with a scope is not described, if a chain that is walked is too long. -/
theorem not_succeeds_describe {chain : List String} (h : m.template.Unfolds m.table m.template.properties chain)
    (hlong : maxDepth < chain.length) {document : Json} {scopes : List Finder} (hscopes : m.AreScopes document scopes)
    (hne : scopes ≠ []) : ¬ Succeeds (m.describe document).outcome := by
  intro hsucceeds
  obtain ⟨ds, hds⟩ := hsucceeds
  obtain ⟨scopes', hscopes', hall⟩ := describe_eq_ok hds
  cases hscopes.unique hscopes'
  cases hall with
  | nil => exact hne rfl
  | @cons f d _ _ hd _ =>
    simp only [describeScope, Traced.outcome_bind, bind_eq_ok] at hd
    obtain ⟨_, _, _, _, said, hsaid, _⟩ := hd
    exact not_succeeds_of_unfolds h hlong f ⟨said, hsaid⟩

/-- **Nesting is bounded, and the guard raises exactly beyond the bound.** A run ends, whether well or not, and has made
    no resource beyond the depth that is allowed. The guard raises on no document, if no chain of references visits more
    than `maxDepth` node templates. If there is a scope, and a chain with more of them is walked, then the mapping fails.
    What it fails with is raised by the guard, or it would be raised with any amount of room. -/
theorem mapInto_nesting (m : Mapper) (g : Graph) (next : Nat) (document : Json) :
    (∀ d ∈ ((m.write document).after (.start g next)).depths, d ≤ maxDepth) ∧
      ((m.mapInto g next document).outcome = match (m.write document) (.start g next) with
        | .ok subjects s => .ok ⟨s.graph, subjects, s.next⟩
        | .error e _ => .error e) ∧
      (∀ r scopes occurrence, (m.mapInto g next document).outcome = .ok r → m.AreScopes document scopes →
        m.Occurs scopes occurrence → occurrence.level ≤ maxDepth) ∧
      ((∀ chain, m.template.Leads m.template.properties chain → chain.length ≤ maxDepth) →
        ∀ limit id, (m.mapInto g next document).outcome ≠ .error (.mapping (.tooDeep limit id))) ∧
      (∀ chain scopes, m.template.Unfolds m.table m.template.properties chain → maxDepth < chain.length →
        m.AreScopes document scopes → scopes ≠ [] →
        ∃ e, (m.mapInto g next document).outcome = .error e ∧
          ((∃ id, e = .mapping (.tooDeep maxDepth id)) ∨
            ∀ room, maxDepth ≤ room → (m.describeWithin room document).outcome = .error e)) := by
  refine ⟨?_, m.outcome_mapInto g next document, ?_, ?_, ?_⟩
  · have hstart : ∀ d ∈ (Store.start g next).depths, d ≤ maxDepth := fun d hd => absurd hd List.not_mem_nil
    exact (m.stepwise_write document).depths_le hstart
  · intro r scopes occurrence hr hscopes hoccurs
    exact level_le_of_mapInto hr hscopes hoccurs
  · intro hshort limit id
    exact mapInto_ne_tooDeep hshort g next document limit id
  · intro chain scopes hchain hlong hscopes hne
    have hnot := not_succeeds_describe hchain hlong hscopes hne
    cases hds : (m.describe document).outcome with
    | ok ds => exact absurd ⟨ds, hds⟩ hnot
    | error e =>
      refine ⟨e, (m.mapInto_eq_error g next document e).mpr hds, ?_⟩
      by_cases hdeep : ∃ id, e = .mapping (.tooDeep maxDepth id)
      · exact .inl hdeep
      · refine .inr fun room hroom => ?_
        rcases m.unlessDeep_describe hroom document with ⟨id, hid⟩ | hsame
        · exact absurd ⟨id, Except.error.inj (hds.symm.trans hid)⟩ hdeep
        · rw [← hsame, hds]

end Mapper

/-! ## Chains of any length -/

/-- The name of the `i`-th node template of a chain. -/
def linkName (i : Nat) : String :=
  String.ofList (List.replicate i 'x')

theorem linkName_inj {i j : Nat} (h : linkName i = linkName j) : i = j := by
  have hlist := String.ofList_inj.mp h
  simpa using congrArg List.length hlist

/-- The property that refers to the `i`-th node template. -/
def Property.toLink (i : Nat) : Property :=
  { predicate := "http://example.org/next", kind := .nodeRef, node := some (linkName i) }

/-- The `i`-th node template, which refers to the next one. -/
def NodeTemplate.link (i : Nat) : NodeTemplate :=
  { id := linkName i, properties := [("next", .toLink (i + 1))] }

namespace ResourceTemplate

/-- A template whose references lead through `n` node templates, the last of which refers to nothing that exists. -/
def ofChain (n : Nat) : ResourceTemplate :=
  { properties := [("next", .toLink 0)], nodes := (List.range n).map .link }

/-- What has the name of a link is that link. -/
theorem link_of_node? {n : Nat} {id : String} {found : NodeTemplate} (h : (ofChain n).node? id = some found) :
    ∃ i, i < n ∧ found = .link i ∧ id = linkName i := by
  obtain ⟨i, hi, rfl⟩ := List.mem_map.mp (List.mem_of_find?_eq_some h)
  have hname : linkName i = id := by simpa [NodeTemplate.link] using List.find?_some h
  exact ⟨i, List.mem_range.mp hi, rfl, hname.symm⟩

theorem node?_ofChain {n i : Nat} (h : i < n) : (ofChain n).node? (linkName i) = some (.link i) := by
  have hknown : (ofChain n).Known (linkName i) := by
    rw [known_iff]
    exact List.mem_map.mpr ⟨.link i, List.mem_map.mpr ⟨i, List.mem_range.mpr h, rfl⟩, rfl⟩
  obtain ⟨found, hfound⟩ := Option.isSome_iff_exists.mp hknown
  obtain ⟨j, _, rfl, hname⟩ := link_of_node? hfound
  rw [hfound, linkName_inj hname]

/-- References only lead to longer names. -/
theorem acyclic_ofChain (n : Nat) : (ofChain n).findCycle = none := by
  have hstep : ∀ a b, (ofChain n).RefersTo a b → a.length < b.length := by
    intro a b hab
    obtain ⟨link, key, p, hlink, hp, _, hb, _⟩ := hab
    obtain ⟨i, _, rfl, rfl⟩ := link_of_node? hlink
    cases List.mem_singleton.mp hp
    cases hb
    simp [linkName]
  have hpath : ∀ a b, Relation.TransGen (ofChain n).RefersTo a b → a.length < b.length := by
    intro a b hab
    induction hab with
    | single h => exact hstep _ _ h
    | tail _ h ih => exact ih.trans (hstep _ _ h)
  exact findCycle_eq_none_iff.mpr fun id hid => Nat.lt_irrefl _ (hpath id id hid)

/-- The references of the template are walked up to the last node template. -/
theorem unfolds_ofChain {n i k : Nat} (h : i + k ≤ n) :
    (ofChain n).Unfolds (.ofTexts []) [("next", .toLink i)] ((List.range' i k).map linkName) := by
  induction k generalizing i with
  | zero => exact .stop _
  | succ k ih =>
    rw [List.range'_succ, List.map_cons]
    have hexpands : (PrefixTable.ofTexts []).expand "http://example.org/next" = .ok (some "http://example.org/next") :=
      rfl
    have hrest := ih (i := i + 1) (by omega)
    exact .step (List.mem_singleton_self _) hexpands rfl rfl (node?_ofChain (by omega)) (.inl ⟨rfl, rfl⟩) hrest

end ResourceTemplate

/-- The mapper of a chain of `n` node templates. -/
def Mapper.ofChain (n : Nat) : Mapper :=
  ⟨.ofChain n, .ofTexts [], ResourceTemplate.acyclic_ofChain n⟩

namespace Mapper

/-- With enough room nothing goes wrong from the `i`-th node template of a chain on. -/
theorem succeeds_statements_ofChain {n room i : Nat} (h : n ≤ i + room) (f : Finder) :
    Succeeds (statements (.ofTexts []) (objects (.ofChain n) (.ofTexts []) f room) [("next", .toLink i)]).outcome := by
  induction room generalizing i with
  | zero =>
    refine succeeds_statements fun p hp => ?_
    cases List.mem_singleton.mp hp
    have hkind : (Property.toLink i).kind = .nodeRef := rfl
    cases hnode : (Property.toLink i).node.bind (ResourceTemplate.ofChain n).node? with
    | none =>
      rw [objects_of_unknown hkind hnode]
      exact succeeds_ok _
    | some found =>
      -- the last reference leads to nothing that exists
      obtain ⟨j, hj, rfl, hname⟩ := ResourceTemplate.link_of_node? hnode
      have heq := linkName_inj hname
      omega
  | succ room ih =>
    refine succeeds_statements fun p hp => ?_
    cases List.mem_singleton.mp hp
    have hkind : (Property.toLink i).kind = .nodeRef := rfl
    cases hnode : (Property.toLink i).node.bind (ResourceTemplate.ofChain n).node? with
    | none =>
      rw [objects_of_unknown hkind hnode]
      exact succeeds_ok _
    | some found =>
      rw [objects_of_node hkind hnode]
      obtain ⟨j, _, rfl, hname⟩ := ResourceTemplate.link_of_node? hnode
      have heq := linkName_inj hname
      have hsaid := ih (i := j + 1) (by omega)
      simp only [Traced.outcome_bind, Traced.outcome_lift, Traced.outcome_mapM]
      refine Succeeds.bind (succeeds_ok [none]) fun bases _ => succeeds_mapM fun base _ => ?_
      refine (succeeds_ok Identity.fresh).bind fun identity _ => (succeeds_ok none).bind fun type _ => ?_
      exact hsaid.bind fun said _ => succeeds_ok _

theorem succeeds_describeWithin_ofChain (n : Nat) :
    Succeeds ((ofChain n).describeWithin n (.text "x")).outcome := by
  have hsaid := fun f => succeeds_statements_ofChain (Nat.zero_add n).ge f
  unfold describeWithin
  simp only [Traced.outcome_bind, Traced.outcome_lift, Traced.outcome_mapM]
  refine (succeeds_ok _).bind fun f _ => (succeeds_ok [f]).bind fun scopes _ => succeeds_mapM fun f' _ => ?_
  refine (succeeds_ok Identity.fresh).bind fun identity _ => (succeeds_ok none).bind fun type _ => ?_
  exact (hsaid f').bind fun said _ => succeeds_ok _

/-- With a chain of as many node templates as are allowed the guard never raises; with one more it does. -/
theorem mapInto_nesting_ofChain :
    (∀ limit id, ((ofChain maxDepth).mapInto {} 0 (.text "x")).outcome ≠ .error (.mapping (.tooDeep limit id))) ∧
      ∃ id, ((ofChain (maxDepth + 1)).mapInto {} 0 (.text "x")).outcome = .error (.mapping (.tooDeep maxDepth id)) := by
  have hscopes : ∀ n, (ofChain n).AreScopes (.text "x") [⟨.text "x", .text "x"⟩] := fun _ => rfl
  obtain ⟨_, _, _, hnever, _⟩ := mapInto_nesting (ofChain maxDepth) {} 0 (.text "x")
  obtain ⟨_, _, _, _, hfails⟩ := mapInto_nesting (ofChain (maxDepth + 1)) {} 0 (.text "x")
  refine ⟨hnever fun chain hchain => ?_, ?_⟩
  · have hfew : (ofChain maxDepth).template.nodes.length ≤ maxDepth := by simp [ofChain, ResourceTemplate.ofChain]
    exact hchain.length_le_maxDepth (ResourceTemplate.acyclic_ofChain _) hfew
  · have hchain := ResourceTemplate.unfolds_ofChain (Nat.zero_add (maxDepth + 1)).le
    obtain ⟨e, he, ⟨id, rfl⟩ | hroom⟩ := hfails _ _ hchain (by simp) (hscopes _) (by simp)
    · exact ⟨id, he⟩
    · -- with one level more everything would come out well
      have hdescribed := succeeds_describeWithin_ofChain (maxDepth + 1)
      rw [hroom _ (Nat.le_succ maxDepth)] at hdescribed
      exact absurd hdescribed (not_succeeds_error e)

end Mapper

end GraphLift
