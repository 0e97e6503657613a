import GraphLift.Proofs.Json.Names
import GraphLift.Proofs.Mapping.Order
import GraphLift.Template.Reader

/-! # The order in which a template is written

    Templates are written in JSON. The entries of a table of properties or node templates may stand in any order there:
    what is read then differs in that order only.

    * **Members** other than these tables are the same.
    * **Names** of node templates differ, as they do in every object that is read from a text.
-/

namespace GraphLift

open Outcome

namespace Template

variable {members members' : Members}

/-! ## Orders -/

/-- The same value, or the same entries in another order. -/
inductive EntriesReordered : Json → Json → Prop where
  | same (v : Json) : EntriesReordered v v
  | object {entries entries' : Members} (h : entries.Perm entries') :
      EntriesReordered (.object entries) (.object entries')

/-- The same value, or a node template with its properties in another order. -/
inductive NodeReordered : Json → Json → Prop where
  | same (v : Json) : NodeReordered v v
  | object {members members' : Members}
      (others : ∀ name, name ≠ "props" → Json.lookup name members = Json.lookup name members')
      (props : EntriesReordered (Json.field members "props") (Json.field members' "props")) :
      NodeReordered (.object members) (.object members')

/-- The same value, or the same node templates in another order, each perhaps with its properties in another order. -/
inductive NodesReordered : Json → Json → Prop where
  | same (v : Json) : NodesReordered v v
  | object {table table' : Members} (h : Rearranged (fun e e' => e.1 = e'.1 ∧ NodeReordered e.2 e'.2) table table') :
      NodesReordered (.object table) (.object table')

/-- The template with its properties, its node templates and the properties of those in another order. -/
structure MembersReordered (members members' : Members) : Prop where
  others : ∀ name, name ≠ "props" → name ≠ "nodes" → Json.lookup name members = Json.lookup name members'
  props : EntriesReordered (Json.field members "props") (Json.field members' "props")
  nodes : NodesReordered (Json.field members "nodes") (Json.field members' "nodes")

theorem MembersReordered.refl (members : Members) : MembersReordered members members :=
  ⟨fun _ _ _ => rfl, .same _, .same _⟩

/-! ## Reading members -/

theorem field_eq {name : String} (h : Json.lookup name members = Json.lookup name members') :
    Json.field members name = Json.field members' name :=
  congrArg (·.getD Json.null) h

theorem textMember_eq {name : String} (h : Json.lookup name members = Json.lookup name members') (place : String) :
    textMember members place name = textMember members' place name := by
  unfold textMember
  rw [field_eq h]

/-- Properties are read in the order in which they are written. -/
theorem agree_propertiesMember (h : EntriesReordered (Json.field members "props") (Json.field members' "props"))
    (place : String) : Agree List.Perm (propertiesMember members place) (propertiesMember members' place) := by
  unfold propertiesMember
  generalize Json.field members "props" = v at h
  generalize Json.field members' "props" = v' at h
  cases h with
  | same v => exact Agree.refl (fun _ => .refl _) _
  | object h => exact agree_mapM_perm h

theorem agree_nodeOfMembers (hothers : ∀ name, name ≠ "props" → Json.lookup name members = Json.lookup name members')
    (hprops : EntriesReordered (Json.field members "props") (Json.field members' "props")) (id place : String) :
    Agree NodeTemplate.Reordered (nodeOfMembers id place members) (nodeOfMembers id place members') := by
  have hkind : nodeKindMember members place = nodeKindMember members' place := by
    unfold nodeKindMember
    rw [hothers "kind" (by decide)]
  have hmap : mapMember members place = mapMember members' place := by
    unfold mapMember
    rw [field_eq (hothers "map" (by decide))]
  have hmulti := field_eq (hothers "multi" (by decide))
  unfold nodeOfMembers
  rw [hkind, hmap, hmulti, textMember_eq (hothers "const" (by decide)), textMember_eq (hothers "json" (by decide)),
    textMember_eq (hothers "format" (by decide)), textMember_eq (hothers "type" (by decide))]
  refine Agree.bind_same fun kind _ => Agree.bind_same fun const _ => Agree.bind_same fun path _ => ?_
  refine Agree.bind_same fun format _ => Agree.bind_same fun typeRef _ => Agree.bind_same fun valueMap _ => ?_
  exact (agree_propertiesMember hprops place).bind fun properties properties' h => .ok (.intro h)

theorem agree_readNode {v v' : Json} (h : NodeReordered v v') (id : String) :
    Agree NodeTemplate.Reordered (readNode id v) (readNode id v') := by
  cases h with
  | same v => exact Agree.refl (fun n => .intro (.refl _)) _
  | object hothers hprops => exact agree_nodeOfMembers hothers hprops id _

/-- Node templates are read in the order in which they are written. -/
theorem agree_nodes (h : NodesReordered (Json.field members "nodes") (Json.field members' "nodes")) :
    Agree (Rearranged NodeTemplate.Reordered)
      (objectMember members "nodes" >>= fun table => table.mapM fun e => readNode e.1 e.2)
      (objectMember members' "nodes" >>= fun table => table.mapM fun e => readNode e.1 e.2) := by
  unfold objectMember
  generalize Json.field members "nodes" = v at h
  generalize Json.field members' "nodes" = v' at h
  cases h with
  | same v =>
    exact Agree.refl (fun ns => .of_perm (fun n _ => .intro (.refl _)) (.refl ns)) _
  | @object table table' h =>
    have htruthy : (Json.object table).isTruthy = (Json.object table').isTruthy := by
      obtain ⟨middle, hperm, hall⟩ := h
      -- only the empty table counts as nothing
      have hlength : table.length = table'.length := hperm.length_eq.trans hall.length_eq
      have hempty : table.isEmpty = table'.isEmpty := by
        rw [Bool.eq_iff_iff, List.isEmpty_iff_length_eq_zero, List.isEmpty_iff_length_eq_zero, hlength]
      exact congrArg (! ·) hempty
    dsimp only
    rw [htruthy]
    split
    · exact .ok (.of_perm (fun n _ => .intro (.refl _)) .nil)
    · refine agree_mapM_rearranged h ?_
      intro e e' he
      rw [he.1]
      exact agree_readNode he.2 e'.1

/-! ## Names of node templates -/

theorem id_of_readNode {id : String} {v : Json} {n : NodeTemplate} (h : readNode id v = .ok n) : n.id = id := by
  unfold readNode at h
  cases v with
  | object members =>
    simp only [nodeOfMembers, bind_eq_ok] at h
    obtain ⟨_, _, _, _, _, _, _, _, _, _, _, _, _, _, h⟩ := h
    cases h
    rfl
  | _ => cases h

/-- Node templates have the names under which they are written, so that their names differ. -/
theorem distinct_nodes (hdistinct : Json.Distinct (.object members)) {nodes : List NodeTemplate}
    (h : (objectMember members "nodes" >>= fun table => table.mapM fun e => readNode e.1 e.2) = .ok nodes) :
    (nodes.map (·.id)).Nodup := by
  obtain ⟨table, htable, hnodes⟩ := bind_eq_ok.mp h
  have hnames : (table.map (·.1)).Nodup := by
    have hfield := hdistinct.field "nodes"
    unfold objectMember at htable
    dsimp only at htable
    split at htable
    · cases htable
      exact List.nodup_nil
    · split at htable
      · next entries heq =>
        cases htable
        rw [heq] at hfield
        exact hfield.names
      · cases htable
  have hids : table.map (·.1) = nodes.map (·.id) :=
    (mapM_eq_ok.mp hnodes).map_eq fun e n hn => (id_of_readNode hn).symm
  rw [← hids]
  exact hnames

/-! ## Reading templates -/

theorem agree_ofMembers (h : MembersReordered members members') (hdistinct : Json.Distinct (.object members))
    (outside : Json) :
    Agree ResourceTemplate.Reordered (ofMembers members outside) (ofMembers members' outside) := by
  have hsubject : objectMember members "subject" = objectMember members' "subject" := by
    unfold objectMember
    rw [field_eq (h.others "subject" (by decide) (by decide))]
  have htype : chooseType outside members = chooseType outside members' := by
    unfold chooseType
    rw [textMember_eq (h.others "type" (by decide) (by decide))]
  unfold ofMembers
  rw [hsubject, htype, textMember_eq (h.others "scope" (by decide) (by decide))]
  refine Agree.bind_same fun table _ => Agree.bind_same fun subject _ => ?_
  have hnodes := (agree_nodes h.nodes).and_left fun nodes => distinct_nodes hdistinct
  -- the table of node templates and what is read from it belong together
  rw [← bind_assoc, ← bind_assoc]
  refine hnodes.bind fun nodes nodes' hn => Agree.bind_same fun scope _ => Agree.bind_same fun type _ => ?_
  refine (agree_propertiesMember h.props "resource").bind fun properties properties' hp => ?_
  exact .ok ⟨rfl, rfl, rfl, hp, hn.1, hn.2⟩

theorem succeeds_reports (events : List Event) : Succeeds (events.forM Traced.report).outcome := by
  induction events with
  | nil => exact succeeds_ok _
  | cons e rest ih =>
    show Succeeds (Traced.report e >>= fun _ => rest.forM Traced.report).outcome
    rw [Traced.outcome_bind]
    exact ih

/-- The check of references is about circles only. -/
theorem agree_checkReferences {t t' : ResourceTemplate} (h : t.findCycle = none ↔ t'.findCycle = none) :
    Agree (fun _ _ => True) t.checkReferences.outcome t'.checkReferences.outcome := by
  unfold ResourceTemplate.checkReferences
  cases hc : t.findCycle with
  | none =>
    rw [h.mp hc]
    obtain ⟨_, hreports⟩ := succeeds_reports t.dangling
    obtain ⟨_, hreports'⟩ := succeeds_reports t'.dangling
    dsimp only
    rw [hreports, hreports']
    exact .ok trivial
  | some c =>
    cases hc' : t'.findCycle with
    | none =>
      rw [h.mpr hc'] at hc
      cases hc
    | some c' => exact .error _ _

/-- **A template reads the same in any order.** Either both readings are refused, or they differ in order only. -/
theorem agree_read (h : MembersReordered members members') (hdistinct : Json.Distinct (.object members))
    (outside : Json) :
    Agree ResourceTemplate.Reordered (read members outside).outcome (read members' outside).outcome := by
  unfold read
  simp only [Traced.outcome_bind, Traced.outcome_lift]
  refine (agree_ofMembers h hdistinct outside).mapError.bind fun t t' ht => ?_
  exact (agree_checkReferences ht.findCycle).bind fun _ _ _ => .ok ht

end Template

end GraphLift
