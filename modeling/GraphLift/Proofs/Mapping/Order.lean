import GraphLift.Mapping.Mapper
import GraphLift.Proofs.Description.Rearrangement
import GraphLift.Proofs.Json.Names
import GraphLift.Proofs.Template.Circles

/-! # The order of a template

    Properties and node templates may be written in any order. Templates that differ in that order only make the same
    of every document: both fail, or they describe the same resources in descriptions that are like each other.

    * **Node templates** are found by name, so that their order does not matter as long as names differ.
    * **Circles** of references are there or not in any order.
    * **Descriptions** (`ResourceTemplate.Reordered.agree_describe`) differ in the order of statements only.
-/

namespace GraphLift

open Outcome

/-! ## Orders -/

/-- The node template with its properties in another order. -/
inductive NodeTemplate.Reordered (n : NodeTemplate) : NodeTemplate → Prop where
  | intro {properties : List (String × Property)} (h : n.properties.Perm properties) :
      Reordered n { n with properties }

/-- The template with its properties, its node templates and the properties of those in another order. -/
structure ResourceTemplate.Reordered (t t' : ResourceTemplate) : Prop where
  subject : t.subject = t'.subject
  scopePath : t.scopePath = t'.scopePath
  typeRef : t.typeRef = t'.typeRef
  properties : t.properties.Perm t'.properties
  nodes : Rearranged NodeTemplate.Reordered t.nodes t'.nodes
  distinct : (t.nodes.map (·.id)).Nodup

theorem NodeTemplate.Reordered.symm {n n' : NodeTemplate} (h : n.Reordered n') : n'.Reordered n := by
  cases h with
  | intro h => exact .intro h.symm

namespace ResourceTemplate

variable {t t' : ResourceTemplate}

/-! ## Finding node templates -/

/-- By every name the same node template is found in both, up to the order of its properties. -/
theorem Reordered.node? (h : t.Reordered t') (id : String) :
    Option.Rel NodeTemplate.Reordered (t.node? id) (t'.node? id) := by
  obtain ⟨middle, hperm, hall⟩ := h.nodes
  have hmiddle : (middle.map (·.id)).Nodup := (hperm.map _).nodup_iff.mp h.distinct
  -- first in another order and then with other properties
  have heq : t.node? id = middle.find? (·.id == id) := by
    apply Option.ext
    intro n
    rw [ResourceTemplate.node?, Json.find?_key_eq_some h.distinct, Json.find?_key_eq_some hmiddle, hperm.mem_iff]
  rw [heq]
  exact rel_find?_of_forall₂ (fun n n' hn => by cases hn; rfl) hall id

/-! ## Circles -/

theorem RefersTo.reordered {a b : String} (hnode : ∀ id, Option.Rel NodeTemplate.Reordered (t.node? id) (t'.node? id))
    (h : t.RefersTo a b) : t'.RefersTo a b := by
  obtain ⟨n, key, p, hn, hp, hkind, hpnode, hb⟩ := h
  obtain ⟨k, hk⟩ := Option.isSome_iff_exists.mp hb
  obtain ⟨n', hn', ⟨hperm⟩⟩ := exists_of_rel (hnode a) hn
  obtain ⟨k', hk', _⟩ := exists_of_rel (hnode b) hk
  exact ⟨_, key, p, hn', hperm.mem_iff.mp hp, hkind, hpnode, Option.isSome_iff_exists.mpr ⟨k', hk'⟩⟩

/-- Templates that differ in order only are both in order or both have a circle of references. -/
theorem Reordered.findCycle (h : t.Reordered t') : t.findCycle = none ↔ t'.findCycle = none := by
  have hnode' : ∀ id, Option.Rel NodeTemplate.Reordered (t'.node? id) (t.node? id) := by
    intro id
    have hid := h.node? id
    generalize t.node? id = x at hid
    generalize t'.node? id = y at hid
    cases hid with
    | none => exact .none
    | some hid => exact .some hid.symm
  -- the graphs of references are the same, so that the search comes out the same whatever its order is
  have hrefers : t.RefersTo = t'.RefersTo := by
    funext a b
    exact propext ⟨fun hab => hab.reordered h.node?, fun hab => hab.reordered hnode'⟩
  rw [findCycle_eq_none_iff, findCycle_eq_none_iff, hrefers]

end ResourceTemplate

/-! ## Descriptions -/

namespace Mapper

variable {t t' : ResourceTemplate} {table : PrefixTable}

/-- The statements of properties are those of each of them, one after the other. -/
theorem outcome_statements (objects : Property → Traced (List Value)) (properties : List (String × Property)) :
    (statements table objects properties).outcome =
      (properties.mapM fun p => (statement table objects p.1 p.2).outcome).map (·.flatMap Option.toList) := by
  induction properties with
  | nil => rfl
  | cons p rest ih =>
    obtain ⟨key, p⟩ := p
    simp only [statements, Traced.outcome_bind, List.mapM_cons, ih]
    cases (statement table objects key p).outcome with
    | error e => rfl
    | ok head =>
      cases rest.mapM fun p => (statement table objects p.1 p.2).outcome with
      | error e => rfl
      | ok tail => rfl

/-- Statements agree if the objects of the properties do, whatever the order of the properties is. -/
theorem agree_statements {objects objects' : Property → Traced (List Value)}
    {properties properties' : List (String × Property)} (h : properties.Perm properties')
    (hobjects : ∀ p, Agree (List.Forall₂ Value.IsLike) (objects p).outcome (objects' p).outcome) :
    Agree (Rearranged Statement.IsLike) (statements table objects properties).outcome
      (statements table objects' properties').outcome := by
  have hone : ∀ p : String × Property, Agree (Option.Rel Statement.IsLike)
      (statement table objects p.1 p.2).outcome (statement table objects' p.1 p.2).outcome := by
    intro p
    unfold statement
    simp only [Traced.outcome_bind, Traced.outcome_lift]
    refine Agree.bind_same fun expanded _ => ?_
    cases expanded with
    | none => exact .ok .none
    | some predicate =>
      simp only [Traced.outcome_bind]
      exact (hobjects p.2).bind fun vs vs' hvs => .ok (.some ⟨rfl, hvs⟩)
  -- properties without statements are left out afterwards
  rw [outcome_statements, outcome_statements]
  refine Agree.map (agree_mapM_rearranged (.of_perm (fun p _ => rfl) h) ?_) fun _ _ hs => hs.flatMap_toList
  intro p p' hp
  subst hp
  exact hone p

variable [Library]

/-- The objects of a property agree: by induction on the room that is left for instances of node templates. -/
theorem agree_objects (hnode : ∀ id, Option.Rel NodeTemplate.Reordered (t.node? id) (t'.node? id)) (f : Finder)
    (room : Nat) (p : Property) :
    Agree (List.Forall₂ Value.IsLike) (objects t table f room p).outcome (objects t' table f room p).outcome := by
  have hrel : ∀ q : Property, Option.Rel NodeTemplate.Reordered (q.node.bind t.node?) (q.node.bind t'.node?) :=
    fun q => rel_bind hnode
  induction room, p using objects_induction t with
  | value room p hkind =>
    rw [objects_of_ne hkind, objects_of_ne hkind]
    exact Agree.refl (fun vs => List.forall₂_same.mpr fun v _ => .refl v) _
  | unknown room p hkind hunknown =>
    have hunknown' : p.node.bind t'.node? = none := eq_none_of_rel (hrel p) hunknown
    rw [objects_of_unknown hkind hunknown, objects_of_unknown hkind hunknown']
    exact .ok .nil
  | full p n hkind hn =>
    -- without room, a reference that leads somewhere fails in both templates
    obtain ⟨n', hn', _⟩ := exists_of_rel (hrel p) hn
    rw [objects_of_full hkind hn, objects_of_full hkind hn']
    exact .error _ _
  | node room p n hkind hn ih =>
    obtain ⟨n', hn', ⟨hperm⟩⟩ := exists_of_rel (hrel p) hn
    rw [objects_of_node hkind hn, objects_of_node hkind hn']
    -- candidates, identities and types do not depend on the properties
    simp only [Traced.outcome_bind, Traced.outcome_lift, Traced.outcome_mapM]
    refine Agree.bind_same (x := n.candidates f) fun bases _ => ?_
    refine agree_mapM_same bases fun base => ?_
    refine Agree.bind_same (x := (n.identify base f).outcome) fun identity _ => ?_
    refine Agree.bind_same fun type _ => ?_
    refine (agree_statements hperm ih).bind fun said said' hsaid => ?_
    exact .ok (.resource (Description.isLike_mk hsaid))

theorem agree_describeScope {m m' : Mapper} (h : m.template.Reordered m'.template) (htable : m.table = m'.table)
    (f : Finder) : Agree Description.IsLike (m.describeScope f).outcome (m'.describeScope f).outcome := by
  unfold describeScope
  rw [← h.subject, ← h.typeRef, ← htable]
  simp only [Traced.outcome_bind]
  refine Agree.bind_same fun identity _ => Agree.bind_same fun type _ => ?_
  refine (agree_statements h.properties fun p => agree_objects h.node? f maxDepth p).bind fun said said' hsaid => ?_
  exact .ok (Description.isLike_mk hsaid)

/-- The descriptions of a document agree: there are as many, and they are like each other one by one. -/
theorem agree_describe {m m' : Mapper} (h : m.template.Reordered m'.template) (htable : m.table = m'.table)
    (document : Json) :
    Agree (List.Forall₂ Description.IsLike) (m.describe document).outcome (m'.describe document).outcome := by
  have hscopes : m'.scopes = m.scopes := by
    unfold scopes
    rw [h.scopePath]
  unfold describe
  rw [hscopes]
  simp only [Traced.outcome_bind, Traced.outcome_lift, Traced.outcome_mapM]
  refine Agree.bind_same fun f _ => Agree.bind_same fun scopes _ => ?_
  exact agree_mapM_same scopes fun s => agree_describeScope h htable s

end Mapper

variable [Library]

/-- What a template says of the resources in a document, if its references are in order. -/
def ResourceTemplate.describe (t : ResourceTemplate) (table : PrefixTable) (document : Json) :
    Except Failure (List Description) := do
  let m ← Mapper.ofTemplate t table
  (m.describe document).outcome

/-- Templates that differ in order only say the same of every document, in descriptions that are like each other, or
    fail both. -/
theorem ResourceTemplate.Reordered.agree_describe {t t' : ResourceTemplate} (h : t.Reordered t') (table : PrefixTable)
    (document : Json) :
    Agree (List.Forall₂ Description.IsLike) (t.describe table document) (t'.describe table document) := by
  -- whether there is a mapper depends on circles alone
  have hmapper : Agree (fun m m' : Mapper => m.template = t ∧ m'.template = t' ∧ m.table = m'.table)
      (Mapper.ofTemplate t table) (Mapper.ofTemplate t' table) := by
    unfold Mapper.ofTemplate
    split
    · next hnone =>
      split
      · exact .ok ⟨rfl, rfl, rfl⟩
      · next circle hcircle =>
        rw [h.findCycle.mp hnone] at hcircle
        cases hcircle
    · next circle hcircle =>
      split
      · next hnone =>
        rw [h.findCycle.mpr hnone] at hcircle
        cases hcircle
      · exact .error _ _
  unfold ResourceTemplate.describe
  refine hmapper.bind fun m m' hm => ?_
  obtain ⟨ht, ht', htable⟩ := hm
  subst ht
  subst ht'
  exact Mapper.agree_describe h htable document

end GraphLift
