import GraphLift.Proofs.Mapping.Reports
import GraphLift.Proofs.Template.WellFormed

/-! # References to nothing

    A property may refer to a node template that does not exist. That is reported when the template is read, and again
    whenever a mapping comes to the property.

    * **Written references** (`Template.references`) are those in the JSON values of a file, in the order in which they are
      written: first those of the resource, then those of the node templates.
    * **Reading** reports those of them whose node template is not written, each of them once and nothing else
      (`Template.records_read`).
    * **Mapping** has nothing to report about node templates beyond that (`Template.read_reports_dangling`).
-/

namespace GraphLift

open Outcome

namespace Template

variable {members : Members} {place : String}

/-! ## Written references -/

/-- A reference to a node template, as it is written: the place of the table of properties, the key and the predicate of
    the property, and the name of the node template. -/
structure WrittenReference where
  place : String
  key : String
  predicate : String
  node : String
  deriving DecidableEq, Repr

/-- What is reported of a reference when the template is read. -/
def WrittenReference.warning (r : WrittenReference) : Record :=
  ⟨.danglingNode r.place r.key (some r.node), false⟩

/-- The entries of a table. -/
def entriesOf : Json → Members
  | .object entries => entries
  | _ => []

/-- The reference that is written under a key. -/
def reference? (place key : String) (raw : Json) : Option WrittenReference :=
  match Json.lookup "as" (entriesOf raw), Json.field (entriesOf raw) "predicate", Json.field (entriesOf raw) "node" with
  | some (.text "node-ref"), .text predicate, .text node => some ⟨place, key, predicate, node⟩
  | _, _, _ => none

/-- The references in a table of properties. -/
def referencesIn (place : String) (props : Json) : List WrittenReference :=
  (entriesOf props).filterMap fun e => reference? place e.1 e.2

/-- The references that are written in a template: first those of the resource. -/
def references (members : Members) : List WrittenReference :=
  referencesIn "resource" (Json.field members "props") ++
    (entriesOf (Json.field members "nodes")).flatMap fun e =>
      referencesIn ("nodes." ++ e.1) (Json.field (entriesOf e.2) "props")

/-- A node template is written under this name. -/
def writesNode (members : Members) (id : String) : Bool :=
  (Json.lookup id (entriesOf (Json.field members "nodes"))).isSome

/-! ## Reading tables -/

theorem entriesOf_objectMember {name : String} {entries : Members} (h : objectMember members name = .ok entries) :
    entriesOf (Json.field members name) = entries := by
  rcases objectMember_eq_ok.mp h with ⟨hfalse, rfl⟩ | ⟨_, hobject⟩
  · -- an object counts as nothing only if it is empty
    cases hfield : Json.field members name with
    | object entries =>
      rw [hfield] at hfalse
      show entries = []
      simpa [Json.isTruthy] using hfalse
    | _ => rfl
  · rw [hobject]
    rfl

/-- Properties stand to the entries of their table one by one. -/
theorem forall₂_properties {properties : List (String × Property)}
    (h : propertiesMember members place = .ok properties) :
    List.Forall₂ (fun e kp => e.1 = kp.1 ∧ readProperty e.1 e.2 = .ok kp.2)
      (entriesOf (Json.field members "props")) properties := by
  unfold propertiesMember at h
  generalize Json.field members "props" = v at h
  -- any other value is refused
  cases v with
  | null =>
    cases h
    exact .nil
  | object entries =>
    refine (mapM_eq_ok.mp h).imp fun e kp hread => ?_
    obtain ⟨p, hp, heq⟩ := bind_eq_ok.mp hread
    cases heq
    exact ⟨rfl, hp⟩
  | _ => cases h

/-- The tables of a template that is read. -/
theorem tables_of_ofMembers {outside : Json} {t : ResourceTemplate} (h : ofMembers members outside = .ok t) :
    propertiesMember members "resource" = .ok t.properties ∧
      List.Forall₂ (fun e n => readNode e.1 e.2 = .ok n) (entriesOf (Json.field members "nodes")) t.nodes := by
  simp only [ofMembers, bind_eq_ok] at h
  obtain ⟨_, _, _, _, table, htable, nodes, hnodes, _, _, _, _, properties, hproperties, h⟩ := h
  cases h
  rw [entriesOf_objectMember htable]
  exact ⟨hproperties, mapM_eq_ok.mp hnodes⟩

/-- The node templates that are found are those that are written. -/
theorem isSome_node?_of_ofMembers {outside : Json} {t : ResourceTemplate} (h : ofMembers members outside = .ok t)
    (id : String) : (t.node? id).isSome = writesNode members id := by
  have hrel := rel_lookup_node? (tables_of_ofMembers h).2 id
  unfold writesNode ResourceTemplate.node?
  generalize Json.lookup id (entriesOf (Json.field members "nodes")) = x at hrel
  generalize t.nodes.find? (·.id == id) = y at hrel
  cases hrel with
  | none => rfl
  | some _ => rfl

/-! ## Reading references -/

theorem predicate_of_propertyOfMembers {p : Property} (h : propertyOfMembers place members = .ok p) :
    Json.field members "predicate" = .text p.predicate := by
  unfold propertyOfMembers at h
  obtain ⟨predicate?, hpredicate, h⟩ := bind_eq_ok.mp h
  split at h
  · next predicate hsome =>
    obtain ⟨kind, _, h⟩ := bind_eq_ok.mp h
    obtain ⟨node, _, h⟩ := bind_eq_ok.mp h
    split at h
    · cases h
    · obtain ⟨_, _, h⟩ := bind_eq_ok.mp h
      obtain ⟨_, _, h⟩ := bind_eq_ok.mp h
      obtain ⟨_, _, h⟩ := bind_eq_ok.mp h
      obtain ⟨_, _, h⟩ := bind_eq_ok.mp h
      obtain ⟨_, _, h⟩ := bind_eq_ok.mp h
      obtain ⟨_, _, h⟩ := bind_eq_ok.mp h
      cases h
      obtain ⟨rfl, _⟩ := nonempty?_eq_some.mp hsome
      exact textMember_eq_ok.mp hpredicate
  · cases h

/-- A property that refers to a node template is written as a reference to it, and no other property is. -/
theorem reference?_of_readProperty {key : String} {raw : Json} {p : Property} (h : readProperty key raw = .ok p)
    (place : String) :
    reference? place key raw =
      if p.kind = .nodeRef then p.node.map fun node => ⟨place, key, p.predicate, node⟩ else none := by
  obtain ⟨ms, rfl, h⟩ := readProperty_eq_ok h
  obtain ⟨_, hkind, hnode⟩ := propertyOfMembers_eq_ok h
  have hpredicate := predicate_of_propertyOfMembers h
  have hentries : entriesOf (.object ms) = ms := rfl
  unfold reference?
  rw [hentries, hpredicate, hnode]
  by_cases href : p.kind = .nodeRef
  · rw [if_pos href, hkind.mp href]
    cases p.node <;> rfl
  · rw [if_neg href]
    split
    · next has _ _ => exact absurd (hkind.mpr has) href
    · rfl

/-- A property that refers to a node template names it. -/
theorem node_of_readProperty {key : String} {raw : Json} {p : Property} (h : readProperty key raw = .ok p)
    (href : p.kind = .nodeRef) : ∃ node, p.node = some node := by
  obtain ⟨ms, rfl, h⟩ := readProperty_eq_ok h
  obtain ⟨hwellFormed, hkind, hnode⟩ := propertyOfMembers_eq_ok h
  obtain ⟨s, hs, _⟩ := hwellFormed.named (hkind.mp href)
  rw [hs] at hnode
  cases hp : p.node with
  | none =>
    rw [hp] at hnode
    cases hnode
  | some node => exact ⟨node, rfl⟩

/-- A property that refers to a node template is among the references of its table. -/
theorem mem_referencesIn {properties : List (String × Property)} (h : propertiesMember members place = .ok properties)
    (at' : String) {key : String} {p : Property} (hp : (key, p) ∈ properties) (href : p.kind = .nodeRef) :
    ∃ node, p.node = some node ∧
      ⟨at', key, p.predicate, node⟩ ∈ referencesIn at' (Json.field members "props") := by
  obtain ⟨i, hi⟩ := List.getElem?_of_mem hp
  obtain ⟨e, he, hkey, hread⟩ := (forall₂_properties h).exists_left hi
  obtain ⟨node, hnode⟩ := node_of_readProperty hread href
  refine ⟨node, hnode, List.mem_filterMap.mpr ⟨e, List.mem_of_getElem? he, ?_⟩⟩
  rw [reference?_of_readProperty hread, if_pos href, hnode, hkey]
  rfl

/-- A property that is reported when the template is read is written as a reference that leads to nothing. -/
theorem warning_of_readProperty {t : ResourceTemplate} {key : String} {raw : Json} {p : Property}
    (h : readProperty key raw = .ok p) (at' : String) :
    ((reference? at' key raw).filter fun r => (t.node? r.node).isNone).map WrittenReference.warning =
      (if p.kind = .nodeRef && (p.node.bind t.node?).isNone then some (.danglingNode at' key p.node) else none).map
        (Record.mk · false) := by
  have hreference := reference?_of_readProperty h at'
  by_cases href : p.kind = .nodeRef
  · obtain ⟨node, hnode⟩ := node_of_readProperty h href
    rw [hreference, if_pos href, hnode, Option.map_some, Option.bind_some]
    by_cases hnone : (t.node? node).isNone = true
    · rw [if_pos (by simp [href, hnone]), Option.filter_some, if_pos hnone]
      rfl
    · rw [if_neg (by simp [hnone]), Option.filter_some, if_neg hnone]
      rfl
  · rw [hreference, if_neg href, if_neg (by simp [href])]
    rfl

/-- The references of a table that are reported when the template is read are those that lead to nothing. -/
theorem danglingIn_eq {t : ResourceTemplate} {properties : List (String × Property)}
    (h : propertiesMember members place = .ok properties) (at' : String) :
    (t.danglingIn at' properties).map (Record.mk · false) =
      ((referencesIn at' (Json.field members "props")).filter fun r => (t.node? r.node).isNone).map
        WrittenReference.warning := by
  unfold ResourceTemplate.danglingIn referencesIn
  rw [List.filter_filterMap, List.map_filterMap, List.map_filterMap]
  refine ((forall₂_properties h).filterMap_eq fun e kp hread => ?_).symm
  rw [warning_of_readProperty hread.2, hread.1]

/-! ## Reading templates -/

/-- The events are recorded in their order, and nothing else is. -/
theorem records_reports (events : List Event) :
    (events.forM Traced.report).records = events.map (Record.mk · false) := by
  induction events with
  | nil => rfl
  | cons e rest ih =>
    show (Traced.report e >>= fun _ => rest.forM Traced.report).records = _
    have hreported : (Traced.report e).outcome = .ok () := rfl
    rw [Traced.records_bind_of_ok hreported, ih]
    rfl

/-- A template that is read is reported on with one record for every reference that leads to nothing, in the order in
    which the references are written, and with nothing else. -/
theorem records_read {outside : Json} {t : ResourceTemplate} (h : (read members outside).outcome = .ok t) :
    (read members outside).records =
      ((references members).filter fun r => !writesNode members r.node).map WrittenReference.warning := by
  obtain ⟨hmembers, hcycle⟩ := read_eq_ok h
  obtain ⟨hproperties, hnodes⟩ := tables_of_ofMembers hmembers
  have hunknown : (fun r : WrittenReference => !writesNode members r.node) = fun r => (t.node? r.node).isNone := by
    funext r
    rw [← isSome_node?_of_ofMembers hmembers, Option.not_isSome]
  have hread : (read members outside).records = t.dangling.map (Record.mk · false) := by
    have hchecked : t.checkReferences = t.dangling.forM Traced.report := by
      unfold ResourceTemplate.checkReferences
      rw [hcycle]
    have hlifted : (Traced.lift ((ofMembers members outside).mapError .config)).outcome = .ok t := by
      rw [hmembers]
      rfl
    obtain ⟨_, hreported⟩ := succeeds_reports t.dangling
    unfold read
    rw [Traced.records_bind_of_ok hlifted, hchecked, Traced.records_bind_of_ok hreported, records_reports]
    exact List.append_nil _
  rw [hread, hunknown]
  unfold ResourceTemplate.dangling references
  -- the resource first, then the node templates one by one
  rw [List.map_append, List.filter_append, List.map_append, danglingIn_eq hproperties]
  congr 1
  rw [List.map_flatMap, List.filter_flatMap, List.map_flatMap, List.flatMap_def, List.flatMap_def]
  refine congrArg List.flatten (hnodes.map_eq fun e n hn => ?_).symm
  obtain ⟨ms, hraw, htable⟩ := properties_of_readNode hn
  have hplace : s!"nodes.{n.id}" = "nodes." ++ e.1 := by
    rw [id_of_readNode hn]
    rfl
  rw [hplace, hraw, danglingIn_eq htable]
  rfl

/-- A property of a template that is read is written as a reference, if it refers to a node template. -/
theorem mem_references {outside : Json} {t : ResourceTemplate} (h : ofMembers members outside = .ok t)
    {place key : String} {p : Property} (hp : t.HasProperty place key p) (href : p.kind = .nodeRef) :
    ∃ node, p.node = some node ∧ ⟨place, key, p.predicate, node⟩ ∈ references members := by
  obtain ⟨hproperties, hnodes⟩ := tables_of_ofMembers h
  obtain ⟨properties, htable, hp⟩ := hp
  rcases List.mem_cons.mp htable with heq | htable
  · cases heq
    obtain ⟨node, hnode, hmem⟩ := mem_referencesIn hproperties "resource" hp href
    exact ⟨node, hnode, List.mem_append_left _ hmem⟩
  · obtain ⟨n, hn, heq⟩ := List.mem_map.mp htable
    cases heq
    obtain ⟨i, hi⟩ := List.getElem?_of_mem hn
    obtain ⟨e, he, hread⟩ := hnodes.exists_left hi
    obtain ⟨ms, hraw, htable⟩ := properties_of_readNode hread
    obtain ⟨node, hnode, hmem⟩ := mem_referencesIn htable ("nodes." ++ n.id) hp href
    refine ⟨node, hnode, List.mem_append_right _ (List.mem_flatMap.mpr ⟨e, List.mem_of_getElem? he, ?_⟩)⟩
    rw [hraw, ← id_of_readNode hread]
    exact hmem

/-- With some table and for some document, a mapping by the template reports an unknown node template, whether it comes
    out well or not. -/
def MayReportUnknown [Library] (t : ResourceTemplate) (node : Option String) (predicate : String) : Prop :=
  ∃ (table : PrefixTable) (m : Mapper) (g : Graph) (next : Nat) (document : Json) (record : Record),
    Mapper.ofTemplate t table = .ok m ∧ record ∈ (m.mapInto g next document).records ∧
      record.event = .nodeUnknown node predicate

/-- **Reading reports every reference to nothing.** A template that is read comes with one warning for every property
    that refers to a node template which is not written, in the order of the file and the resource first, and with no
    other record. A mapping then reports an unknown node template only about a property that there was such a warning of.
    Without warnings when it is read, a template never has any unknown node template reported. -/
theorem read_reports_dangling [Library] (members : Members) (outside : Json) (t : ResourceTemplate)
    (h : (read members outside).outcome = .ok t) :
    (read members outside).records =
        ((references members).filter fun r => !writesNode members r.node).map WrittenReference.warning ∧
      (∀ node predicate, MayReportUnknown t node predicate →
        ∃ r ∈ references members, node = some r.node ∧ predicate = r.predicate ∧
          r.warning ∈ (read members outside).records) ∧
      ((read members outside).records = [] → ∀ node predicate, ¬ MayReportUnknown t node predicate) := by
  obtain ⟨hmembers, _⟩ := read_eq_ok h
  have hwarned : ∀ node predicate, MayReportUnknown t node predicate →
      ∃ r ∈ references members, node = some r.node ∧ predicate = r.predicate ∧
        r.warning ∈ (read members outside).records := by
    intro node predicate hreport
    obtain ⟨table, m, g, next, document, record, hm, hrecord, hevent⟩ := hreport
    -- the mapping came to a property of the template, which the file writes as a reference
    obtain ⟨place, key, p, hdangles, rfl, rfl⟩ := Mapper.dangles_of_mem_records hrecord hevent
    rw [(Mapper.parts_of_ofTemplate hm).1] at hdangles
    obtain ⟨node, hnode, hmem⟩ := mem_references hmembers hdangles.stands hdangles.kind
    have hunknown : writesNode members node = false := by
      have hnone := hdangles.unknown
      rw [hnode, Option.bind_some] at hnone
      rw [← isSome_node?_of_ofMembers hmembers, hnone]
      rfl
    refine ⟨_, hmem, hnode, rfl, ?_⟩
    rw [records_read h]
    exact List.mem_map.mpr ⟨_, List.mem_filter.mpr ⟨hmem, by simp [hunknown]⟩, rfl⟩
  refine ⟨records_read h, hwarned, ?_⟩
  intro hnothing node predicate hreport
  obtain ⟨r, _, _, _, hwarning⟩ := hwarned node predicate hreport
  rw [hnothing] at hwarning
  exact absurd hwarning List.not_mem_nil

/-- A template with a reference to nothing of its own, and another one within a node template. -/
def withLostNodes : Members := [
  ("props", .object [
    ("a", .object [("predicate", .text "http://e/a"), ("as", .text "node-ref"), ("node", .text "x")]),
    ("b", .object [("predicate", .text "http://e/b"), ("as", .text "node-ref"), ("node", .text "n")])]),
  ("nodes", .object [
    ("n", .object [("props", .object [
      ("c", .object [("predicate", .text "http://e/c"), ("as", .text "node-ref"), ("node", .text "y")])])])])]

/-- Both references are reported when the template is read. The inner one is reported again when a document is mapped,
    and there was a warning of it. -/
theorem read_reports_dangling_withLostNodes :
    ∃ t, (read withLostNodes .null).outcome = .ok t ∧
      (read withLostNodes .null).records =
        [⟨.danglingNode "resource" "a" (some "x"), false⟩, ⟨.danglingNode "nodes.n" "c" (some "y"), false⟩] ∧
      MayReportUnknown t (some "y") "http://e/c" ∧
      ∃ r ∈ references withLostNodes, r.node = "y" ∧ r.warning ∈ (read withLostNodes .null).records := by
  let t : ResourceTemplate := {
    properties := [
      ("a", { predicate := "http://e/a", kind := .nodeRef, node := some "x" }),
      ("b", { predicate := "http://e/b", kind := .nodeRef, node := some "n" })]
    nodes := [{ id := "n", properties := [("c", { predicate := "http://e/c", kind := .nodeRef, node := some "y" })] }] }
  have hread : (read withLostNodes .null).outcome = .ok t := rfl
  have hcycle : t.findCycle = none := rfl
  have hreport : MayReportUnknown t (some "y") "http://e/c" := by
    refine ⟨.ofTexts [], ⟨t, .ofTexts [], hcycle⟩, {}, 0, .object [], ⟨.nodeUnknown (some "y") "http://e/c", false⟩,
      Mapper.ofTemplate_eq_ok hcycle, ?_, rfl⟩
    have hrecords : ((⟨t, .ofTexts [], hcycle⟩ : Mapper).mapInto {} 0 (.object [])).records =
        [⟨.nodeUnknown (some "x") "http://e/a", false⟩, ⟨.nodeUnknown (some "y") "http://e/c", false⟩] := rfl
    rw [hrecords]
    exact List.mem_cons_of_mem _ List.mem_cons_self
  obtain ⟨hrecords, hwarned, _⟩ := read_reports_dangling withLostNodes .null t hread
  obtain ⟨r, hr, hnode, _, hwarning⟩ := hwarned _ _ hreport
  exact ⟨t, hread, hrecords, hreport, r, hr, (Option.some.inj hnode).symm, hwarning⟩

end Template

end GraphLift
