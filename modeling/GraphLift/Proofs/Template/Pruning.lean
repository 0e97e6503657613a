import GraphLift.PrefixTable
import GraphLift.Proofs.Template.Circles
import Mathlib.Data.List.Basic
import Mathlib.Order.Monotone.Basic

/-! # Templates without what has no effect

    Some parts of a template say nothing of any document. Pruning takes them away.

    * **Idle properties** (`Property.isIdle`): the predicate does not expand, or the node template does not exist.
    * **Reachable node templates** (`ResourceTemplate.reachable`): references lead to them from the properties of the
      resource. They are found in as many rounds as there are node templates (`ResourceTemplate.mem_reachable_iff`).
    * **Pruning** (`ResourceTemplate.pruned`) leaves out idle properties, and then what cannot be reached. References that
      are left lead to the same as before (`ResourceTemplate.bind_node?_pruned`), and in no circle if there was none.
-/

namespace GraphLift

/-- Nothing comes of the property: its predicate does not expand, or it refers to a node template that does not exist. It
    is a failure, and not nothing, if the namespace of the predicate is not a text. -/
def Property.isIdle (t : ResourceTemplate) (table : PrefixTable) (p : Property) : Bool :=
  match table.expand p.predicate with
  | .error _ => false
  | .ok none => true
  | .ok (some _) => p.kind = .nodeRef && (p.node.bind t.node?).isNone

theorem Property.isIdle_iff {t : ResourceTemplate} {table : PrefixTable} {p : Property} {expansion : Option String}
    (h : table.expand p.predicate = .ok expansion) :
    p.isIdle t table = true ↔ expansion = none ∨ (p.kind = .nodeRef ∧ p.node.bind t.node? = none) := by
  unfold isIdle
  rw [h]
  cases expansion with
  | none => simp
  | some predicate => simp

namespace ResourceTemplate

variable {t : ResourceTemplate} {table : PrefixTable}

/-! ## What can be reached -/

/-- References lead from the properties of the resource to the node template. -/
def Reaches (t : ResourceTemplate) (id : String) : Prop :=
  ∃ a ∈ t.targets t.properties, Relation.ReflTransGen t.RefersTo a id

/-- The node templates that are found in some rounds: in the first one those that the resource refers to, and later on
    those that were found before or are referred to by what was found before. -/
def reached (t : ResourceTemplate) : (rounds : Nat) → List String
  | 0 => []
  | rounds + 1 => (t.nodes.map (·.id)).filter fun id =>
      id ∈ t.targets t.properties ∨ id ∈ t.reached rounds ∨ ∃ a ∈ t.reached rounds, id ∈ t.targetsOf a

/-- The node templates that can be reached. -/
def reachable (t : ResourceTemplate) : List String :=
  t.reached t.nodes.length

theorem mem_reached_succ {rounds : Nat} {id : String} : id ∈ t.reached (rounds + 1) ↔ t.Known id ∧
    (id ∈ t.targets t.properties ∨ id ∈ t.reached rounds ∨ ∃ a ∈ t.reached rounds, t.RefersTo a id) := by
  rw [reached, List.mem_filter, decide_eq_true_eq, known_iff]
  simp only [mem_targetsOf]

theorem reached_sublist (t : ResourceTemplate) (rounds : Nat) : (t.reached rounds).Sublist (t.reached (rounds + 1)) := by
  induction rounds with
  | zero => exact List.nil_sublist _
  | succ rounds ih =>
    rw [reached, reached]
    refine List.monotone_filter_right _ fun id hid => ?_
    simp only [decide_eq_true_eq] at hid ⊢
    rcases hid with htarget | hfound | ⟨a, ha, hid⟩
    · exact .inl htarget
    · exact .inr (.inl (ih.subset hfound))
    · exact .inr (.inr ⟨a, ih.subset ha, hid⟩)

/-- No node template is found any more once every one of them has had its round. -/
theorem reached_full (t : ResourceTemplate) : t.reached (t.nodes.length + 1) = t.reachable := by
  have hmono : Monotone fun rounds => (t.reached rounds).length :=
    monotone_nat_of_le_succ fun rounds => (t.reached_sublist rounds).length_le
  have hbound : ∀ rounds, (t.reached rounds).length ≤ t.nodes.length := by
    intro rounds
    cases rounds with
    | zero => exact Nat.zero_le _
    | succ rounds => exact (List.length_filter_le _ _).trans_eq (List.length_map _)
  -- what a round adds depends on what was found before, so that a round without effect is the last one with any
  have hstable : ∀ rounds, (t.reached rounds).length = (t.reached (rounds + 1)).length →
      (t.reached (rounds + 1)).length = (t.reached (rounds + 2)).length := by
    intro rounds h
    have hsame : t.reached rounds = t.reached (rounds + 1) := (t.reached_sublist rounds).eq_of_length h
    rw [reached, reached, hsame]
  have hlength := Nat.stabilises_of_monotone hmono hbound hstable (Nat.le_succ t.nodes.length)
  exact ((t.reached_sublist t.nodes.length).eq_of_length hlength.symm).symm

theorem reaches_of_mem_reached {rounds : Nat} {id : String} (h : id ∈ t.reached rounds) : t.Reaches id := by
  induction rounds generalizing id with
  | zero => cases h
  | succ rounds ih =>
    obtain ⟨_, htarget | hfound | ⟨a, ha, hid⟩⟩ := mem_reached_succ.mp h
    · exact ⟨id, htarget, .refl⟩
    · exact ih hfound
    · obtain ⟨b, hb, hba⟩ := ih ha
      exact ⟨b, hb, hba.tail hid⟩

/-- All that can be reached is found. -/
theorem mem_reachable_iff {id : String} : id ∈ t.reachable ↔ t.Reaches id := by
  have hclosed : ∀ {id}, t.Known id →
      (id ∈ t.targets t.properties ∨ id ∈ t.reachable ∨ ∃ a ∈ t.reachable, t.RefersTo a id) → id ∈ t.reachable := by
    intro id hknown h
    rw [← reached_full]
    exact mem_reached_succ.mpr ⟨hknown, h⟩
  constructor
  · exact reaches_of_mem_reached
  · intro h
    obtain ⟨a, ha, hreach⟩ := h
    induction hreach with
    | refl =>
      obtain ⟨_, _, _, _, _, hknown⟩ := mem_targets.mp ha
      exact hclosed hknown (.inl ha)
    | tail _ hstep ih => exact hclosed hstep.known (.inr (.inr ⟨_, ih, hstep⟩))

/-- Whatever the properties refer to can be reached. -/
def Covers (t : ResourceTemplate) (properties : List (String × Property)) : Prop :=
  ∀ b ∈ t.targets properties, t.Reaches b

theorem covers_properties (t : ResourceTemplate) : t.Covers t.properties :=
  fun b hb => ⟨b, hb, .refl⟩

theorem Reaches.covers {id : String} (h : t.Reaches id) {n : NodeTemplate} (hn : t.node? id = some n) :
    t.Covers n.properties := by
  intro b hb
  obtain ⟨key, p, hp, hkind, hnode, hknown⟩ := mem_targets.mp hb
  obtain ⟨a, ha, hreach⟩ := h
  exact ⟨a, ha, hreach.tail ⟨n, key, p, hn, hp, hkind, hnode, hknown⟩⟩

/-! ## Pruning -/

/-- The properties that are not idle. -/
def busy (t : ResourceTemplate) (table : PrefixTable) (properties : List (String × Property)) :
    List (String × Property) :=
  properties.filter fun p => !p.2.isIdle t table

/-- The node template with those of its properties that are not idle. -/
def onlyBusy (t : ResourceTemplate) (table : PrefixTable) (n : NodeTemplate) : NodeTemplate :=
  { n with properties := t.busy table n.properties }

/-- The template without idle properties. -/
def withoutIdle (t : ResourceTemplate) (table : PrefixTable) : ResourceTemplate :=
  { t with properties := t.busy table t.properties, nodes := t.nodes.map (t.onlyBusy table) }

/-- The template without idle properties, and without the node templates that cannot be reached then. -/
def pruned (t : ResourceTemplate) (table : PrefixTable) : ResourceTemplate :=
  { t.withoutIdle table with
    nodes := (t.withoutIdle table).nodes.filter fun n => n.id ∈ (t.withoutIdle table).reachable }

theorem node?_withoutIdle (t : ResourceTemplate) (table : PrefixTable) (id : String) :
    (t.withoutIdle table).node? id = (t.node? id).map (t.onlyBusy table) := by
  unfold node? withoutIdle
  rw [List.find?_map]
  rfl

theorem node?_pruned (t : ResourceTemplate) (table : PrefixTable) (id : String) :
    (t.pruned table).node? id =
      if id ∈ (t.withoutIdle table).reachable then (t.withoutIdle table).node? id else none := by
  unfold pruned node?
  dsimp only
  generalize (t.withoutIdle table).reachable = ids
  rw [List.find?_filter]
  split
  · next hmem =>
    refine congrArg (List.find? · _) (funext fun n => ?_)
    by_cases hid : n.id = id
    · simp [hid, hmem]
    · simp [hid]
  · next hmem =>
    refine List.find?_eq_none.mpr fun n _ => ?_
    by_cases hid : n.id = id
    · simp [hid, hmem]
    · simp [hid]

/-- A node template that is left is one that can be reached. -/
theorem node?_pruned_eq_some {id : String} {n : NodeTemplate} : (t.pruned table).node? id = some n ↔
    (t.withoutIdle table).Reaches id ∧ (t.withoutIdle table).node? id = some n := by
  rw [node?_pruned, Option.ite_none_right_eq_some, mem_reachable_iff]

/-- The predicate `e:b` does not expand, so that one node template is not reached; the other one loses a property. -/
example : (ResourceTemplate.pruned
    { properties := [
        ("a", { predicate := "http://e/a", kind := .nodeRef, node := some "a" }),
        ("b", { predicate := "e:b", kind := .nodeRef, node := some "b" })]
      nodes := [
        { id := "a", properties := [("c", { predicate := "http://e/c", kind := .nodeRef, node := some "c" })] },
        { id := "b", properties := [("d", { predicate := "http://e/d", path := some "$[" })] }] }
    (.ofTexts [])).nodes = [{ id := "a" }] := by decide

/-- Properties that lead to reachable node templates only, lead to the same ones in the pruned template. -/
theorem bind_node?_pruned {properties : List (String × Property)} (h : (t.withoutIdle table).Covers properties)
    {key : String} {p : Property} (hp : (key, p) ∈ properties) (hkind : p.kind = .nodeRef) :
    p.node.bind (t.pruned table).node? = (p.node.bind t.node?).map (t.onlyBusy table) := by
  cases hnode : p.node with
  | none => rfl
  | some b =>
    show (t.pruned table).node? b = (t.node? b).map (t.onlyBusy table)
    rw [← node?_withoutIdle]
    cases hb : (t.withoutIdle table).node? b with
    | none =>
      rw [node?_pruned, hb]
      exact ite_self none
    | some n =>
      have hknown : (t.withoutIdle table).Known b := by rw [Known, hb]; rfl
      exact node?_pruned_eq_some.mpr ⟨h b (mem_targets.mpr ⟨key, p, hp, hkind, hnode, hknown⟩), hb⟩

theorem refersTo_of_pruned {a b : String} (h : (t.pruned table).RefersTo a b) : t.RefersTo a b := by
  have hback : ∀ {id n}, (t.pruned table).node? id = some n → ∃ n₀, t.node? id = some n₀ ∧ t.onlyBusy table n₀ = n := by
    intro id n hn
    rw [node?_pruned_eq_some, node?_withoutIdle, Option.map_eq_some_iff] at hn
    exact hn.2
  obtain ⟨n, key, p, hn, hp, hkind, hnode, hb⟩ := h
  obtain ⟨n₀, hn₀, rfl⟩ := hback hn
  obtain ⟨m, hm⟩ := Option.isSome_iff_exists.mp hb
  obtain ⟨m₀, hm₀, _⟩ := hback hm
  exact ⟨n₀, key, p, hn₀, List.mem_of_mem_filter hp, hkind, hnode, by rw [hm₀]; rfl⟩

/-- Pruning makes no circles. -/
theorem findCycle_pruned (h : t.findCycle = none) (table : PrefixTable) : (t.pruned table).findCycle = none := by
  rw [findCycle_eq_none_iff] at h ⊢
  have hfewer : (t.pruned table).RefersTo ≤ t.RefersTo := fun _ _ => refersTo_of_pruned
  intro a hcycle
  exact h a (Relation.TransGen.mono hfewer a a hcycle)

end ResourceTemplate

end GraphLift
