import GraphLift.Proofs.Mapping.Steps
import GraphLift.Proofs.Mapping.Success
import GraphLift.Proofs.Mapping.Writing
import GraphLift.Proofs.Template.Pruning

/-! # Mapping by pruned templates

    Pruning takes nothing away from a template that any document would show, apart from reports. A run of the mapper goes
    past idle properties without writing, and never comes to node templates that cannot be reached.

    * **Stores** are the same (`Store.Same`) if they differ in what was reported only.
    * **Runs** have the same effect (`Writing.SameEffect`) if they come out the same from such stores, and leave such stores
      behind.
    * **Idle properties** (`Mapper.sameEffect_writeProperty_idle`) write nothing, so that they may be left out of a list.
    * **Mapping** (`Mapper.mapInto_pruned`) by a template and by the pruned one comes out the same, also when it fails.
-/

namespace GraphLift

/-! ## Runs that differ in their reports -/

/-- The stores hold the same, whatever was reported. -/
structure Store.Same (s s' : Store) : Prop where
  graph : s.graph = s'.graph
  next : s.next = s'.next
  depths : s.depths = s'.depths

namespace Store.Same

variable {s s' s₂ : Store}

theorem refl (s : Store) : s.Same s :=
  ⟨rfl, rfl, rfl⟩

theorem symm (h : s.Same s') : s'.Same s :=
  ⟨h.graph.symm, h.next.symm, h.depths.symm⟩

theorem trans (h : s.Same s') (h' : s'.Same s₂) : s.Same s₂ :=
  ⟨h.graph.trans h'.graph, h.next.trans h'.next, h.depths.trans h'.depths⟩

end Store.Same

namespace Writing

variable {α β : Type}

/-- The runs come out the same and leave the same behind, apart from reports. -/
def SameEffect (w w' : Writing α) : Prop :=
  ∀ s s', s.Same s' → w.outcome s = w'.outcome s' ∧ (w.after s).Same (w'.after s')

theorem SameEffect.bind {w w' : Writing α} {k k' : α → Writing β} (hw : SameEffect w w')
    (hk : ∀ a, SameEffect (k a) (k' a)) : SameEffect (w >>= k) (w' >>= k') := by
  intro s s' hs
  obtain ⟨hout, hafter⟩ := hw s s' hs
  rw [outcome_bind, outcome_bind, ← hout]
  cases hfirst : w.outcome s with
  | error e =>
    rw [after_bind_of_error hfirst, after_bind_of_error (hout ▸ hfirst)]
    exact ⟨rfl, hafter⟩
  | ok a =>
    rw [after_bind_of_ok hfirst, after_bind_of_ok (hout ▸ hfirst)]
    exact hk a _ _ hafter

theorem sameEffect_consult {x x' : Traced α} (h : x.outcome = x'.outcome) : SameEffect (consult x) (consult x') := by
  intro s s' hs
  rw [outcome_consult, outcome_consult, after_consult, after_consult]
  exact ⟨h, hs.graph, hs.next, hs.depths⟩

theorem sameEffect_enter (depth : Nat) : SameEffect (enter depth) (enter depth) := by
  intro s s' hs
  exact ⟨rfl, hs.graph, hs.next, congrArg (· ++ [depth]) hs.depths⟩

/-- What was consulted before makes no difference. -/
theorem sameEffect_consult_bind {x : Traced α} {a : α} (hx : x.outcome = .ok a) {w : Writing β} {k : α → Writing β}
    (h : SameEffect w (k a)) : SameEffect w (consult x >>= k) := by
  intro s s' hs
  have hfirst : (consult x).outcome s' = .ok a := (outcome_consult x s').trans hx
  rw [outcome_bind, hfirst, after_bind_of_ok hfirst, after_consult]
  exact h s _ ⟨hs.graph, hs.next, hs.depths⟩

/-- The steps of a run take no notice of what was reported. -/
theorem Stepwise.sameEffect {w : Writing α} (h : Stepwise w) : SameEffect w w := by
  induction h with
  | pure a => exact fun s s' hs => ⟨rfl, hs⟩
  | throw e => exact fun s s' hs => ⟨rfl, hs⟩
  | consult x => exact sameEffect_consult rfl
  | make i =>
    intro s s' hs
    refine ⟨?_, hs.graph, ?_, hs.depths⟩
    · show Except.ok (i.name s.next).1 = Except.ok (i.name s'.next).1
      rw [hs.next]
    · show (i.name s.next).2 = (i.name s'.next).2
      rw [hs.next]
  | add t => exact fun s s' hs => ⟨rfl, congrArg (·.insert t) hs.graph, hs.next, hs.depths⟩
  | enter _ => exact sameEffect_enter _
  | bind _ _ first rest => exact first.bind rest

theorem sameEffect_mapM {w w' : α → Writing β} (h : ∀ a, SameEffect (w a) (w' a)) (l : List α) :
    SameEffect (l.mapM w) (l.mapM w') := by
  induction l with
  | nil => exact (Stepwise.pure []).sameEffect
  | cons a rest ih =>
    rw [List.mapM_cons, List.mapM_cons]
    exact (h a).bind fun b => ih.bind fun bs => (Stepwise.pure (b :: bs)).sameEffect

/-- A run along a list may go past the members that change nothing. -/
theorem sameEffect_forM_filter {keep : α → Bool} {w w' : α → Writing Unit} {l : List α}
    (hkeep : ∀ a ∈ l, keep a = true → SameEffect (w a) (w' a))
    (hdrop : ∀ a ∈ l, keep a = false → SameEffect (pure ()) (w' a)) :
    SameEffect ((l.filter keep).forM w) (l.forM w') := by
  induction l with
  | nil => exact (Stepwise.pure ()).sameEffect
  | cons a rest ih =>
    obtain ⟨hkeepHead, hkeepRest⟩ := List.forall_mem_cons.mp hkeep
    obtain ⟨hdropHead, hdropRest⟩ := List.forall_mem_cons.mp hdrop
    have hrest := ih hkeepRest hdropRest
    cases ha : keep a with
    | true =>
      rw [List.filter_cons_of_pos ha]
      exact (hkeepHead ha).bind fun _ => hrest
    | false =>
      rw [List.filter_cons_of_neg (by rw [ha]; exact Bool.false_ne_true), ← pure_bind () fun _ => List.forM _ w]
      exact (hdropHead ha).bind fun _ => hrest

end Writing

open Writing

namespace Mapper

variable {t : ResourceTemplate} {table : PrefixTable}

/-! ## Properties -/

/-- A property is written to the same effect if its objects are. -/
theorem sameEffect_writeProperty {write write' : Property → Writing (List Term)} {p : Property}
    (h : SameEffect (write p) (write' p)) (node : Node) (key : String) :
    SameEffect (writeProperty table write node key p) (writeProperty table write' node key p) := by
  unfold writeProperty
  refine (sameEffect_consult rfl).bind fun expansion => ?_
  cases expansion with
  | none => exact sameEffect_consult rfl
  | some predicate => exact h.bind fun os => (Stepwise.forM (fun o => .add _) os).sameEffect

variable [Library]

/-- Nothing is written for an idle property. -/
theorem sameEffect_writeProperty_idle {p : Property} (h : p.isIdle t table = true) (f : Finder) (depth : Nat)
    (node : Node) (key : String) :
    SameEffect (pure ()) (writeProperty table (writeObjects t table f depth) node key p) := by
  have hnothing : SameEffect (pure ()) (pure () : Writing Unit) := (Stepwise.pure ()).sameEffect
  cases hexpand : table.expand p.predicate with
  | error e =>
    unfold Property.isIdle at h
    rw [hexpand] at h
    cases h
  | ok expansion =>
    unfold writeProperty
    refine sameEffect_consult_bind hexpand ?_
    cases expansion with
    | none =>
      rw [← bind_pure (consult (Traced.report _))]
      exact sameEffect_consult_bind rfl hnothing
    | some predicate =>
      -- the node template does not exist, which is reported
      obtain ⟨hkind, hnode⟩ := ((Property.isIdle_iff hexpand).mp h).resolve_left (Option.some_ne_none predicate)
      dsimp only
      rw [writeObjects_of_unknown hkind hnode, bind_assoc]
      refine sameEffect_consult_bind rfl ?_
      rw [pure_bind]
      exact hnothing

/-- A resource is written to the same effect without its idle properties, if the objects of all others are. -/
theorem sameEffect_writeResource {write : Property → Writing (List Term)} {f : Finder} {depth : Nat}
    {properties : List (String × Property)}
    (h : ∀ p ∈ t.busy table properties, SameEffect (write p.2) (writeObjects t table f depth p.2))
    (identity : Traced Identity) (type : Option Reference) :
    SameEffect (writeResource table write depth identity type (t.busy table properties))
      (writeResource table (writeObjects t table f depth) depth identity type properties) := by
  unfold writeResource
  refine (sameEffect_consult rfl).bind fun identity => (Stepwise.make identity).sameEffect.bind fun node => ?_
  refine (sameEffect_enter depth).bind fun _ => (sameEffect_consult rfl).bind fun type => ?_
  refine (Stepwise.forM Stepwise.add _).sameEffect.bind fun _ => ?_
  refine SameEffect.bind ?_ fun _ => (Stepwise.pure node).sameEffect
  refine sameEffect_forM_filter (fun p hp hkeep => ?_) (fun p _ hdrop => ?_)
  · exact sameEffect_writeProperty (h p (List.mem_filter.mpr ⟨hp, hkeep⟩)) node p.1
  · exact sameEffect_writeProperty_idle (by simpa using hdrop) f depth node p.1

/-! ## Runs -/

/-- The pruned template writes objects to the same effect, for properties that lead to reachable node templates only. -/
theorem sameEffect_writeObjects (f : Finder) (depth : Nat) {p : Property} {properties : List (String × Property)}
    (h : (t.withoutIdle table).Covers properties) {key : String} (hp : (key, p) ∈ properties) :
    SameEffect (writeObjects (t.pruned table) table f depth p) (writeObjects t table f depth p) := by
  induction depth, p using writeObjects_induction t generalizing key properties with
  | value depth p hkind =>
    rw [writeObjects_of_ne hkind, writeObjects_of_ne hkind]
    exact (sameEffect_consult rfl).bind fun vs => (Stepwise.mapM Value.stepwise_make vs).sameEffect
  | unknown depth p hkind hnode =>
    have hleft : p.node.bind (t.pruned table).node? = none :=
      (ResourceTemplate.bind_node?_pruned h hp hkind).trans (congrArg _ hnode)
    rw [writeObjects_of_unknown hkind hleft, writeObjects_of_unknown hkind hnode]
    exact (sameEffect_consult rfl).bind fun _ => (Stepwise.pure []).sameEffect
  | deep depth p n hkind hnode hdepth =>
    have hleft : p.node.bind (t.pruned table).node? = some (t.onlyBusy table n) :=
      (ResourceTemplate.bind_node?_pruned h hp hkind).trans (congrArg _ hnode)
    rw [writeObjects_of_deep hkind hleft hdepth, writeObjects_of_deep hkind hnode hdepth]
    exact (Stepwise.throw _).sameEffect
  | node depth p n hkind hnode hdepth ih =>
    have hleft : p.node.bind (t.pruned table).node? = some (t.onlyBusy table n) :=
      (ResourceTemplate.bind_node?_pruned h hp hkind).trans (congrArg _ hnode)
    rw [writeObjects_of_node hkind hleft hdepth, writeObjects_of_node hkind hnode hdepth]
    -- what the node template refers to can be reached as well
    obtain ⟨a, _, ha⟩ := Option.bind_eq_some_iff.mp hleft
    obtain ⟨hreach, hbusy⟩ := ResourceTemplate.node?_pruned_eq_some.mp ha
    have hinner : ∀ q ∈ t.busy table n.properties,
        SameEffect (writeObjects (t.pruned table) table f (depth + 1) q.2) (writeObjects t table f (depth + 1) q.2) :=
      fun q hq => ih q.2 (hreach.covers hbusy) hq
    refine (sameEffect_consult rfl).bind fun bases => sameEffect_mapM (fun base => ?_) bases
    exact (sameEffect_writeResource hinner _ _).bind fun node => (Stepwise.pure _).sameEffect

/-- A mapper has the same effect as the one whose template is pruned. -/
theorem sameEffect_write {m m' : Mapper} (htable : m'.table = m.table)
    (htemplate : m'.template = m.template.pruned m.table) (document : Json) :
    SameEffect (m'.write document) (m.write document) := by
  obtain ⟨t', table', hacyclic⟩ := m'
  subst htable htemplate
  have hobjects : ∀ f, ∀ p ∈ m.template.busy m.table m.template.properties,
      SameEffect (writeObjects (m.template.pruned m.table) m.table f 0 p.2) (writeObjects m.template m.table f 0 p.2) :=
    fun f p hp => sameEffect_writeObjects f 0 (m.template.withoutIdle m.table).covers_properties hp
  unfold write
  refine (sameEffect_consult rfl).bind fun f => (sameEffect_consult rfl).bind fun scopes => ?_
  exact sameEffect_mapM (fun f' => sameEffect_writeResource (hobjects f') _ _) scopes

/-! ## Mapping -/

/-- What a mapping gives is what a run comes to and leaves behind. -/
theorem outcome_mapInto_eq_map (m : Mapper) (g : Graph) (next : Nat) (document : Json) :
    (m.mapInto g next document).outcome = ((m.write document).outcome (.start g next)).map fun subjects =>
      ⟨((m.write document).after (.start g next)).graph, subjects, ((m.write document).after (.start g next)).next⟩ := by
  rw [outcome_mapInto]
  unfold Writing.outcome Writing.after
  cases (m.write document) (.start g next) <;> rfl

/-- A mapper maps as the one does whose template is pruned. -/
theorem mapInto_eq_of_pruned {m m' : Mapper} (htable : m'.table = m.table)
    (htemplate : m'.template = m.template.pruned m.table) (g : Graph) (next : Nat) (document : Json) :
    (m'.mapInto g next document).outcome = (m.mapInto g next document).outcome ∧
      ((m'.write document).after (.start g next)).Same ((m.write document).after (.start g next)) := by
  obtain ⟨hout, hafter⟩ := sameEffect_write htable htemplate document _ _ (Store.Same.refl (.start g next))
  refine ⟨?_, hafter⟩
  rw [outcome_mapInto_eq_map, outcome_mapInto_eq_map, hout, hafter.graph, hafter.next]

/-- **Idle properties and unreachable node templates have no effect.** Without them, the template of a mapper makes a
    mapper again. Whatever the document is, both come to the same graph with the same subjects and the same numbers for
    blank nodes, or fail with the same failure and leave the same behind in the graph. So do any two mappers with the same
    table whose templates are the same once they are pruned, whatever stands in the parts that are left out. -/
theorem mapInto_pruned (m : Mapper) :
    (∃ m', ofTemplate (m.template.pruned m.table) m.table = .ok m' ∧ ∀ g next document,
      (m'.mapInto g next document).outcome = (m.mapInto g next document).outcome ∧
        ((m'.write document).after (.start g next)).Same ((m.write document).after (.start g next))) ∧
    ∀ m₂ : Mapper, m₂.table = m.table → m₂.template.pruned m.table = m.template.pruned m.table →
      ∀ g next document, (m₂.mapInto g next document).outcome = (m.mapInto g next document).outcome ∧
        ((m₂.write document).after (.start g next)).Same ((m.write document).after (.start g next)) := by
  have hacyclic := ResourceTemplate.findCycle_pruned m.acyclic m.table
  obtain ⟨m', hm', htable', htemplate'⟩ : ∃ m', ofTemplate (m.template.pruned m.table) m.table = .ok m' ∧
      m'.table = m.table ∧ m'.template = m.template.pruned m.table := ⟨_, ofTemplate_eq_ok hacyclic, rfl, rfl⟩
  refine ⟨⟨m', hm', mapInto_eq_of_pruned htable' htemplate'⟩, ?_⟩
  intro m₂ htable hpruned g next document
  -- both are mapped as the pruned template is
  obtain ⟨hout, hafter⟩ := mapInto_eq_of_pruned htable' htemplate' g next document
  obtain ⟨hout₂, hafter₂⟩ := mapInto_eq_of_pruned (htable'.trans htable.symm)
    (show m'.template = m₂.template.pruned m₂.table by rw [htable, hpruned, htemplate']) g next document
  exact ⟨hout₂.symm.trans hout, hafter₂.symm.trans hafter⟩

end Mapper

end GraphLift
