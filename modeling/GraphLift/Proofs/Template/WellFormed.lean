import GraphLift.Proofs.Mapping.Success
import GraphLift.Proofs.Template.Order

/-! # Which templates are read

    Whatever stands in a file, a template is read exactly if the file is well-formed; any other file is refused with the
    fault that it has.

    * **Well-formed files** (`Template.WellFormed`) are described by their JSON values alone: what may stand under every
      name, and that the references between node templates do not lead in a circle (`Template.Refers`).
    * **Readers** each have a lemma that says what they accept, from a single member (`succeeds_textMember`) up to a
      whole node template (`succeeds_nodeOfMembers`).
    * **References** (`refersTo_iff`) between the node templates that are read are those that are written.
    * **Reading** (`read_wellFormed`) comes out well for well-formed files, and is refused otherwise.
-/

namespace GraphLift

open Outcome

namespace Template

variable {members : Members} {place name : String}

/-! ## Well-formed files -/

/-- A text, or null. -/
def TextOrNull (v : Json) : Prop :=
  v = .null ∨ ∃ s, v = .text s

/-- An object, or null. -/
def ObjectOrNull (v : Json) : Prop :=
  v = .null ∨ ∃ entries, v = .object entries

/-- The members of a property. -/
structure PropertyWellFormed (members : Members) : Prop where
  predicate : ∃ s, Json.field members "predicate" = .text s ∧ s ≠ ""
  /-- Null is no kind of value, but there may be none. -/
  kind : Json.lookup "as" members = none ∨ ∃ k : ValueKind, Json.lookup "as" members = some (.text k.text)
  node : TextOrNull (Json.field members "node")
  named : Json.lookup "as" members = some (.text ValueKind.nodeRef.text) →
    ∃ s, Json.field members "node" = .text s ∧ s ≠ ""
  paths : (Json.field members "jsonPaths").isTruthy = false ∨
    ∃ paths : List String, Json.field members "jsonPaths" = .array (paths.map .text)
  valueMap : ObjectOrNull (Json.field members "map")
  texts : ∀ name ∈ ["json", "format", "lang", "datatype"], TextOrNull (Json.field members name)

/-- A table of properties, or null. -/
def PropertiesWellFormed (v : Json) : Prop :=
  v = .null ∨ ∃ entries, v = .object entries ∧
    ∀ e ∈ entries, ∃ members, e.2 = .object members ∧ PropertyWellFormed members

/-- The members of a node template. -/
structure NodeWellFormed (members : Members) : Prop where
  kind : Json.lookup "kind" members = none ∨ ∃ k : NodeKind, Json.lookup "kind" members = some (.text k.text)
  texts : ∀ name ∈ ["const", "json", "format", "type"], TextOrNull (Json.field members name)
  valueMap : ObjectOrNull (Json.field members "map")
  properties : PropertiesWellFormed (Json.field members "props")

/-- A subject rule, or what counts as nothing. -/
def SubjectWellFormed (v : Json) : Prop :=
  v.isTruthy = false ∨ ∃ members, v = .object members ∧
    ∀ name ∈ ["const", "template", "format", "json"], TextOrNull (Json.field members name)

/-- A table of node templates, or what counts as nothing. -/
def NodesWellFormed (v : Json) : Prop :=
  v.isTruthy = false ∨ ∃ table, v = .object table ∧
    ∀ e ∈ table, ∃ members, e.2 = .object members ∧ NodeWellFormed members

/-- A table of properties has one that refers to the node template `b`. -/
def NamesNode (v : Json) (b : String) : Prop :=
  ∃ entries key members, v = .object entries ∧ (key, .object members) ∈ entries ∧
    Json.lookup "as" members = some (.text ValueKind.nodeRef.text) ∧ Json.field members "node" = .text b

/-- In the table of node templates, `a` refers to `b`, and `b` is there. -/
def Refers (members : Members) (a b : String) : Prop :=
  ∃ table node v, Json.field members "nodes" = .object table ∧ Json.lookup a table = some (.object node) ∧
    NamesNode (Json.field node "props") b ∧ Json.lookup b table = some v

/-- The members of a template, when the type `outside` is given besides. -/
structure WellFormed (members : Members) (outside : Json) : Prop where
  subject : SubjectWellFormed (Json.field members "subject")
  nodes : NodesWellFormed (Json.field members "nodes")
  scope : TextOrNull (Json.field members "scope")
  /-- A type from outside wins, so that the one that is written is not looked at. -/
  type : outside.isTruthy = true ∨ TextOrNull (Json.field members "type")
  properties : PropertiesWellFormed (Json.field members "props")
  acyclic : ∀ id, ¬ Relation.TransGen (Refers members) id id

/-! ## Kinds of members -/

theorem textMember_eq_ok {v : Option String} :
    textMember members place name = .ok v ↔ Json.field members name = v.elim .null .text := by
  unfold textMember
  cases Json.field members name <;> cases v <;> simp

theorem succeeds_textMember : Succeeds (textMember members place name) ↔ TextOrNull (Json.field members name) := by
  unfold textMember TextOrNull Succeeds
  cases Json.field members name <;> simp

theorem succeeds_mapMember : Succeeds (mapMember members place) ↔ ObjectOrNull (Json.field members "map") := by
  unfold mapMember ObjectOrNull Succeeds
  cases Json.field members "map" <;> simp

/-- Values are all texts if they are the texts of a list. -/
theorem mapM_text?_eq_some {items : List Json} {paths : List String} :
    items.mapM pathsMember.text? = some paths ↔ items = paths.map .text := by
  induction items generalizing paths with
  | nil => cases paths <;> simp
  | cons v rest ih =>
    rw [List.mapM_cons]
    constructor
    · intro h
      obtain ⟨p, hp, h⟩ := Option.bind_eq_some_iff.mp h
      obtain ⟨ps, hps, h⟩ := Option.bind_eq_some_iff.mp h
      cases h
      cases v with
      | text s =>
        cases hp
        rw [ih.mp hps, List.map_cons]
      | _ => cases hp
    · intro h
      cases paths with
      | nil => cases h
      | cons p ps =>
        obtain ⟨rfl, hrest⟩ := List.cons.inj h
        rw [ih.mpr hrest]
        rfl

theorem succeeds_pathsMember : Succeeds (pathsMember members place) ↔
    (Json.field members "jsonPaths").isTruthy = false ∨
      ∃ paths : List String, Json.field members "jsonPaths" = .array (paths.map .text) := by
  unfold pathsMember
  generalize Json.field members "jsonPaths" = v
  by_cases htruthy : v.isTruthy = true
  · simp only [htruthy, Bool.not_true, Bool.false_eq_true, if_false, Bool.true_eq_false, false_or]
    cases v with
    | array items =>
      dsimp only
      cases hpaths : items.mapM pathsMember.text? with
      | none =>
        constructor
        · intro h
          exact absurd h (not_succeeds_error _)
        · intro h
          obtain ⟨paths, h⟩ := h
          cases h
          rw [mapM_text?_eq_some.mpr rfl] at hpaths
          cases hpaths
      | some paths =>
        have hitems := mapM_text?_eq_some.mp hpaths
        exact ⟨fun _ => ⟨paths, congrArg Json.array hitems⟩, fun _ => succeeds_ok _⟩
    | _ => simp [Succeeds]
  · have hfalse : v.isTruthy = false := by simpa using htruthy
    simp only [hfalse, Bool.not_false, if_true, true_or, iff_true]
    exact succeeds_ok _

theorem valueKindMember_eq_ok {k : ValueKind} : valueKindMember members place = .ok k ↔
    Json.lookup "as" members = some (.text k.text) ∨ (Json.lookup "as" members = none ∧ k = .literal) := by
  unfold valueKindMember
  split
  all_goals cases k <;> simp_all [ValueKind.text]

theorem succeeds_valueKindMember : Succeeds (valueKindMember members place) ↔
    Json.lookup "as" members = none ∨ ∃ k : ValueKind, Json.lookup "as" members = some (.text k.text) := by
  unfold Succeeds
  simp only [valueKindMember_eq_ok, exists_or, exists_and_left, exists_eq, and_true]
  exact or_comm

theorem succeeds_nodeKindMember : Succeeds (nodeKindMember members place) ↔
    Json.lookup "kind" members = none ∨ ∃ k : NodeKind, Json.lookup "kind" members = some (.text k.text) := by
  have hkind : ∀ k : NodeKind, nodeKindMember members place = .ok k ↔
      Json.lookup "kind" members = some (.text k.text) ∨ (Json.lookup "kind" members = none ∧ k = .anonymous) := by
    intro k
    unfold nodeKindMember
    split
    all_goals cases k <;> simp_all [NodeKind.text]
  unfold Succeeds
  simp only [hkind, exists_or, exists_and_left, exists_eq, and_true]
  exact or_comm

theorem objectMember_eq_ok {entries : Members} : objectMember members name = .ok entries ↔
    ((Json.field members name).isTruthy = false ∧ entries = []) ∨
      ((Json.field members name).isTruthy = true ∧ Json.field members name = .object entries) := by
  unfold objectMember
  generalize Json.field members name = v
  dsimp only
  by_cases htruthy : v.isTruthy = true
  · rw [if_neg (by simp [htruthy])]
    simp only [htruthy, Bool.true_eq_false, false_and, true_and, false_or]
    cases v <;> simp
  · have hfalse : v.isTruthy = false := by simpa using htruthy
    rw [if_pos (by simp [hfalse])]
    simp only [hfalse, Bool.false_eq_true, false_and, true_and, or_false, Except.ok.injEq]
    exact eq_comm

/-- A table that is read is the one that is written, if anything is found in it. -/
theorem object_of_lookup {entries : Members} {key : String} {v : Json} (h : objectMember members name = .ok entries)
    (hv : Json.lookup key entries = some v) : Json.field members name = .object entries := by
  rcases objectMember_eq_ok.mp h with ⟨_, rfl⟩ | ⟨_, hobject⟩
  · cases hv
  · exact hobject

/-- The table that is written is the one that is read. -/
theorem eq_of_object {entries entries' : Members} (h : objectMember members name = .ok entries)
    (hobject : Json.field members name = .object entries') : entries' = entries := by
  rcases objectMember_eq_ok.mp h with ⟨hfalse, rfl⟩ | ⟨_, hobject'⟩
  · rw [hobject] at hfalse
    simpa [Json.isTruthy] using hfalse
  · rw [hobject'] at hobject
    exact (Json.object.inj hobject).symm

/-- A table is read on if it counts as nothing or is an object, as long as nothing can be wrong with an empty one. -/
theorem succeeds_objectMember_bind {α : Type} {f : Members → Except ConfigError α} {P : Members → Prop}
    (hf : ∀ entries, Succeeds (f entries) ↔ P entries) (hempty : P []) :
    Succeeds (objectMember members name >>= f) ↔
      (Json.field members name).isTruthy = false ∨
        ∃ entries, Json.field members name = .object entries ∧ P entries := by
  have hnothing : (Json.field members name).isTruthy = false → Succeeds (objectMember members name >>= f) := by
    intro hfalse
    refine Succeeds.bind ⟨[], objectMember_eq_ok.mpr (.inl ⟨hfalse, rfl⟩)⟩ fun entries hentries => ?_
    rcases objectMember_eq_ok.mp hentries with ⟨_, rfl⟩ | ⟨htrue, _⟩
    · exact (hf []).mpr hempty
    · rw [hfalse] at htrue
      cases htrue
  constructor
  · intro h
    obtain ⟨a, h⟩ := h
    obtain ⟨entries, hentries, h⟩ := bind_eq_ok.mp h
    rcases objectMember_eq_ok.mp hentries with ⟨hfalse, _⟩ | ⟨_, hobject⟩
    · exact .inl hfalse
    · exact .inr ⟨entries, hobject, (hf entries).mp ⟨a, h⟩⟩
  · intro h
    rcases h with hfalse | ⟨entries, hobject, hP⟩
    · exact hnothing hfalse
    · by_cases htruthy : (Json.field members name).isTruthy = true
      · have hread : objectMember members name = .ok entries := objectMember_eq_ok.mpr (.inr ⟨htruthy, hobject⟩)
        rw [hread]
        exact (hf entries).mpr hP
      · exact hnothing (by simpa using htruthy)

/-! ## Properties -/

theorem nonempty?_eq_some {v : Option String} {s : String} : nonempty? v = some s ↔ v = some s ∧ s ≠ "" := by
  unfold nonempty?
  cases v with
  | none => simp
  | some t =>
    by_cases ht : t = ""
    · simp only [ht, if_true, Option.some.injEq]
      constructor
      · intro h
        cases h
      · intro h
        exact absurd h.1.symm h.2
    · simp only [ht, if_false, Option.some.injEq]
      constructor
      · intro h
        exact ⟨h, h ▸ ht⟩
      · exact And.left

/-- What is read from a property, and what it says of the node template that the property refers to. -/
theorem propertyOfMembers_eq_ok {p : Property} (h : propertyOfMembers place members = .ok p) :
    PropertyWellFormed members ∧
      (p.kind = .nodeRef ↔ Json.lookup "as" members = some (.text ValueKind.nodeRef.text)) ∧
      Json.field members "node" = p.node.elim .null .text := by
  unfold propertyOfMembers at h
  obtain ⟨predicate?, hpredicate, h⟩ := bind_eq_ok.mp h
  split at h
  · next predicate hsome =>
    obtain ⟨kind, hkind, h⟩ := bind_eq_ok.mp h
    obtain ⟨node, hnode, h⟩ := bind_eq_ok.mp h
    split at h
    · cases h
    · next hnamed =>
      obtain ⟨paths, hpaths, h⟩ := bind_eq_ok.mp h
      obtain ⟨path, hpath, h⟩ := bind_eq_ok.mp h
      obtain ⟨format, hformat, h⟩ := bind_eq_ok.mp h
      obtain ⟨valueMap, hmap, h⟩ := bind_eq_ok.mp h
      obtain ⟨lang, hlang, h⟩ := bind_eq_ok.mp h
      obtain ⟨datatype, hdatatype, h⟩ := bind_eq_ok.mp h
      cases h
      obtain ⟨rfl, hne⟩ := nonempty?_eq_some.mp hsome
      have hkind' := valueKindMember_eq_ok.mp hkind
      have hnode' := textMember_eq_ok.mp hnode
      have hrefers : kind = .nodeRef ↔ Json.lookup "as" members = some (.text ValueKind.nodeRef.text) := by
        constructor
        · intro heq
          subst heq
          rcases hkind' with h | ⟨_, h⟩
          · exact h
          · cases h
        · intro has
          exact Except.ok.inj (hkind.symm.trans (valueKindMember_eq_ok.mpr (.inl has)))
      refine ⟨⟨⟨predicate, textMember_eq_ok.mp hpredicate, hne⟩, succeeds_valueKindMember.mp ⟨_, hkind⟩,
        succeeds_textMember.mp ⟨_, hnode⟩, ?_, succeeds_pathsMember.mp ⟨_, hpaths⟩,
        succeeds_mapMember.mp ⟨_, hmap⟩, ?_⟩, hrefers, hnode'⟩
      · intro has
        -- a property that refers to a node template names it
        have hthere : nonempty? node ≠ none := by
          simpa [hrefers.mpr has] using hnamed
        obtain ⟨s, hs⟩ := Option.ne_none_iff_exists'.mp hthere
        obtain ⟨heq, hnonempty⟩ := nonempty?_eq_some.mp hs
        subst heq
        exact ⟨s, hnode', hnonempty⟩
      · simp only [List.forall_mem_cons, List.not_mem_nil, false_implies, implies_true, and_true]
        exact ⟨succeeds_textMember.mp ⟨_, hpath⟩, succeeds_textMember.mp ⟨_, hformat⟩,
          succeeds_textMember.mp ⟨_, hlang⟩, succeeds_textMember.mp ⟨_, hdatatype⟩⟩
  · cases h

theorem succeeds_propertyOfMembers (h : PropertyWellFormed members) : Succeeds (propertyOfMembers place members) := by
  obtain ⟨s, hs, hne⟩ := h.predicate
  have hpredicate : textMember members place "predicate" = .ok (some s) := textMember_eq_ok.mpr hs
  have hsome : nonempty? (some s) = some s := nonempty?_eq_some.mpr ⟨rfl, hne⟩
  have htexts : ∀ name ∈ ["json", "format", "lang", "datatype"], Succeeds (textMember members place name) :=
    fun name hname => succeeds_textMember.mpr (h.texts name hname)
  simp only [List.forall_mem_cons, List.not_mem_nil, false_implies, implies_true, and_true] at htexts
  obtain ⟨hjson, hformat, hlang, hdatatype⟩ := htexts
  unfold propertyOfMembers
  refine Succeeds.bind ⟨_, hpredicate⟩ fun v hv => ?_
  cases hpredicate.symm.trans hv
  rw [hsome]
  refine (succeeds_valueKindMember.mpr h.kind).bind fun kind hkind => ?_
  refine (succeeds_textMember.mpr h.node).bind fun node hnode => ?_
  have hnamed : (decide (kind = .nodeRef) && (nonempty? node).isNone) = false := by
    by_cases hkindRef : kind = .nodeRef
    · subst hkindRef
      have has : Json.lookup "as" members = some (.text ValueKind.nodeRef.text) := by
        rcases valueKindMember_eq_ok.mp hkind with has | ⟨_, h⟩
        · exact has
        · cases h
      obtain ⟨name, hname, hne⟩ := h.named has
      have hread : textMember members place "node" = .ok (some name) := textMember_eq_ok.mpr hname
      cases hread.symm.trans hnode
      rw [nonempty?_eq_some.mpr ⟨rfl, hne⟩]
      rfl
    · simp [hkindRef]
  rw [hnamed]
  refine (succeeds_pathsMember.mpr h.paths).bind fun paths _ => hjson.bind fun path _ => hformat.bind fun format _ => ?_
  refine (succeeds_mapMember.mpr h.valueMap).bind fun valueMap _ => hlang.bind fun lang _ => ?_
  exact hdatatype.bind fun datatype _ => succeeds_pure _

theorem readProperty_eq_ok {key : String} {raw : Json} {p : Property} (h : readProperty key raw = .ok p) :
    ∃ members, raw = .object members ∧ propertyOfMembers ("props." ++ key) members = .ok p := by
  unfold readProperty at h
  cases raw with
  | object members => exact ⟨members, rfl, h⟩
  | _ => cases h

theorem succeeds_readProperty {key : String} {raw : Json} : Succeeds (readProperty key raw) ↔
    ∃ members, raw = .object members ∧ PropertyWellFormed members := by
  constructor
  · intro h
    obtain ⟨p, h⟩ := h
    obtain ⟨members, hraw, hp⟩ := readProperty_eq_ok h
    exact ⟨members, hraw, (propertyOfMembers_eq_ok hp).1⟩
  · intro h
    obtain ⟨members, rfl, h⟩ := h
    exact succeeds_propertyOfMembers h

theorem succeeds_propertiesMember :
    Succeeds (propertiesMember members place) ↔ PropertiesWellFormed (Json.field members "props") := by
  unfold propertiesMember PropertiesWellFormed
  cases Json.field members "props" with
  | null => exact iff_of_true (succeeds_ok _) (.inl rfl)
  | object entries =>
    dsimp only
    rw [succeeds_mapM_iff]
    have hentry : ∀ e : String × Json, Succeeds (do return (e.1, ← readProperty e.1 e.2)) ↔
        ∃ members, e.2 = .object members ∧ PropertyWellFormed members := by
      intro e
      refine (succeeds_bind_iff fun p _ => iff_true_intro (succeeds_pure _)).trans ?_
      rw [succeeds_readProperty, and_true]
    simp only [hentry]
    simp
  | _ => simp [Succeeds]

/-- The properties that are read refer to the node templates that are named. -/
theorem namesNode_iff {properties : List (String × Property)} (h : propertiesMember members place = .ok properties)
    (b : String) : NamesNode (Json.field members "props") b ↔
      ∃ key p, (key, p) ∈ properties ∧ p.kind = .nodeRef ∧ p.node = some b := by
  unfold propertiesMember at h
  generalize Json.field members "props" = v at h
  cases v with
  | null =>
    cases h
    constructor
    · intro hnames
      obtain ⟨entries, _, _, hv, _⟩ := hnames
      cases hv
    · intro hrefers
      obtain ⟨_, _, hmem, _⟩ := hrefers
      exact absurd hmem List.not_mem_nil
  | object entries =>
    -- properties stand to entries one by one
    have hall := mapM_eq_ok.mp h
    constructor
    · intro hnames
      obtain ⟨_, key, ms, hv, hmem, has, hnode⟩ := hnames
      cases hv
      obtain ⟨i, hi⟩ := List.getElem?_of_mem hmem
      obtain ⟨kp, hkp, hread⟩ := hall.exists_right hi
      obtain ⟨p, hp, heq⟩ := bind_eq_ok.mp hread
      cases heq
      obtain ⟨_, hkind, hp⟩ := propertyOfMembers_eq_ok hp
      refine ⟨key, p, List.mem_of_getElem? hkp, hkind.mpr has, ?_⟩
      rw [hnode] at hp
      cases hpnode : p.node with
      | none =>
        rw [hpnode] at hp
        cases hp
      | some c =>
        rw [hpnode] at hp
        cases hp
        rfl
    · intro hrefers
      obtain ⟨key, p, hmem, hkind, hnode⟩ := hrefers
      obtain ⟨i, hi⟩ := List.getElem?_of_mem hmem
      obtain ⟨⟨key', raw⟩, he, hread⟩ := hall.exists_left hi
      obtain ⟨p', hp, heq⟩ := bind_eq_ok.mp hread
      cases heq
      obtain ⟨ms, hraw, hp⟩ := readProperty_eq_ok hp
      cases hraw
      obtain ⟨_, hkind', hp⟩ := propertyOfMembers_eq_ok hp
      rw [hnode] at hp
      exact ⟨entries, key', ms, rfl, List.mem_of_getElem? he, hkind'.mp hkind, hp⟩
  | _ => cases h

/-! ## Node templates -/

theorem succeeds_nodeOfMembers {id : String} : Succeeds (nodeOfMembers id place members) ↔ NodeWellFormed members := by
  unfold nodeOfMembers
  refine (succeeds_bind_iff fun kind _ => succeeds_bind_iff fun const _ => succeeds_bind_iff fun path _ =>
    succeeds_bind_iff fun format _ => succeeds_bind_iff fun type _ => succeeds_bind_iff fun valueMap _ =>
    succeeds_bind_iff fun properties _ => iff_true_intro (succeeds_pure _)).trans ?_
  rw [succeeds_nodeKindMember, succeeds_mapMember, succeeds_propertiesMember]
  simp only [succeeds_textMember, and_true]
  constructor
  · intro h
    obtain ⟨hkind, hconst, hpath, hformat, htype, hmap, hproperties⟩ := h
    exact ⟨hkind, by simp [hconst, hpath, hformat, htype], hmap, hproperties⟩
  · intro h
    have htexts := h.texts
    simp only [List.forall_mem_cons, List.not_mem_nil, false_implies, implies_true, and_true] at htexts
    obtain ⟨hconst, hpath, hformat, htype⟩ := htexts
    exact ⟨h.kind, hconst, hpath, hformat, htype, h.valueMap, h.properties⟩

theorem succeeds_readNode {id : String} {raw : Json} : Succeeds (readNode id raw) ↔
    ∃ members, raw = .object members ∧ NodeWellFormed members := by
  unfold readNode
  cases raw with
  | object members => simp [succeeds_nodeOfMembers]
  | _ => simp [Succeeds]

theorem properties_of_readNode {id : String} {raw : Json} {n : NodeTemplate} (h : readNode id raw = .ok n) :
    ∃ members, raw = .object members ∧ propertiesMember members ("nodes." ++ id) = .ok n.properties := by
  unfold readNode at h
  cases raw with
  | object members =>
    simp only [nodeOfMembers, bind_eq_ok] at h
    obtain ⟨_, _, _, _, _, _, _, _, _, _, _, _, properties, hproperties, h⟩ := h
    cases h
    exact ⟨members, rfl, hproperties⟩
  | _ => cases h

/-- Under every name stands the node template that is written there. -/
theorem rel_lookup_node? {table : Members} {nodes : List NodeTemplate}
    (h : List.Forall₂ (fun e n => readNode e.1 e.2 = .ok n) table nodes) (id : String) :
    Option.Rel (fun v n => readNode id v = .ok n) (Json.lookup id table) (nodes.find? (·.id == id)) := by
  induction h with
  | nil => exact .none
  | @cons e n _ _ hread _ ih =>
    rw [Json.lookup_cons, List.find?_cons, id_of_readNode hread]
    by_cases hid : e.1 = id
    · subst hid
      simp only [if_true, beq_self_eq_true]
      exact .some hread
    · simp only [hid, if_false, beq_eq_false_iff_ne.mpr hid]
      exact ih

/-! ## Resource templates -/

theorem succeeds_subject :
    Succeeds (objectMember members "subject" >>= readSubject) ↔ SubjectWellFormed (Json.field members "subject") := by
  refine succeeds_objectMember_bind (fun ms => ?_) ?_
  · unfold readSubject
    refine (succeeds_bind_iff fun const _ => succeeds_bind_iff fun template _ => succeeds_bind_iff fun format _ =>
      succeeds_bind_iff fun path _ => iff_true_intro (succeeds_pure _)).trans ?_
    simp only [succeeds_textMember, and_true, List.forall_mem_cons, List.not_mem_nil, false_implies, implies_true]
  · intro name _
    exact .inl rfl

theorem succeeds_nodes :
    Succeeds (objectMember members "nodes" >>= fun table => table.mapM fun e => readNode e.1 e.2) ↔
      NodesWellFormed (Json.field members "nodes") := by
  refine succeeds_objectMember_bind (fun table => ?_) ?_
  · rw [succeeds_mapM_iff]
    simp only [succeeds_readNode]
  · intro e he
    exact absurd he List.not_mem_nil

theorem succeeds_chooseType {outside : Json} : Succeeds (chooseType outside members) ↔
    outside.isTruthy = true ∨ TextOrNull (Json.field members "type") := by
  unfold chooseType
  by_cases htruthy : outside.isTruthy = true
  · rw [if_pos htruthy]
    exact iff_of_true (succeeds_ok _) (.inl htruthy)
  · rw [if_neg htruthy]
    refine (succeeds_bind_iff fun v _ => iff_true_intro (succeeds_pure _)).trans ?_
    simp only [succeeds_textMember, and_true]
    exact (or_iff_right htruthy).symm

theorem succeeds_ofMembers {outside : Json} : Succeeds (ofMembers members outside) ↔
    SubjectWellFormed (Json.field members "subject") ∧ NodesWellFormed (Json.field members "nodes") ∧
      TextOrNull (Json.field members "scope") ∧ (outside.isTruthy = true ∨ TextOrNull (Json.field members "type")) ∧
      PropertiesWellFormed (Json.field members "props") := by
  unfold ofMembers
  -- each table belongs together with what is read from it
  rw [← bind_assoc]
  refine (succeeds_bind_iff fun subject _ => ?_).trans (and_congr succeeds_subject Iff.rfl)
  rw [← bind_assoc]
  refine (succeeds_bind_iff fun nodes _ => ?_).trans (and_congr succeeds_nodes Iff.rfl)
  refine (succeeds_bind_iff fun scope _ => succeeds_bind_iff fun type _ => succeeds_bind_iff fun properties _ =>
    iff_true_intro (succeeds_pure _)).trans ?_
  rw [succeeds_textMember, succeeds_chooseType, succeeds_propertiesMember, and_true]

/-- The references of a template that is read are those that are written. -/
theorem refersTo_iff {outside : Json} {t : ResourceTemplate} (h : ofMembers members outside = .ok t) (a b : String) :
    t.RefersTo a b ↔ Refers members a b := by
  simp only [ofMembers, bind_eq_ok] at h
  obtain ⟨_, _, subject, _, table, htable, nodes, hnodes, scope, _, type, _, properties, _, h⟩ := h
  cases h
  have hrel := rel_lookup_node? (mapM_eq_ok.mp hnodes)
  have hwritten : ∀ {id n}, nodes.find? (·.id == id) = some n →
      ∃ v, Json.lookup id table = some v ∧ readNode id v = .ok n := by
    intro id n hn
    have hid := hrel id
    rw [hn] at hid
    generalize Json.lookup id table = x at hid
    cases hid with
    | some hread => exact ⟨_, rfl, hread⟩
  have hread : ∀ {id v}, Json.lookup id table = some v →
      ∃ n, nodes.find? (·.id == id) = some n ∧ readNode id v = .ok n := by
    intro id v hv
    have hid := hrel id
    rw [hv] at hid
    generalize nodes.find? (·.id == id) = x at hid
    cases hid with
    | some hread => exact ⟨_, rfl, hread⟩
  unfold ResourceTemplate.RefersTo ResourceTemplate.node?
  dsimp only
  constructor
  · intro hrefers
    obtain ⟨n, key, p, hn, hp, hkind, hnode, hknown⟩ := hrefers
    obtain ⟨v, hv, hn⟩ := hwritten hn
    obtain ⟨node, rfl, hproperties⟩ := properties_of_readNode hn
    obtain ⟨n', hn'⟩ := Option.isSome_iff_exists.mp hknown
    obtain ⟨v', hv', _⟩ := hwritten hn'
    exact ⟨table, node, v', object_of_lookup htable hv, hv, (namesNode_iff hproperties b).mpr ⟨key, p, hp, hkind, hnode⟩,
      hv'⟩
  · intro hrefers
    obtain ⟨table', node, v, hfield, ha, hnames, hb⟩ := hrefers
    cases eq_of_object htable hfield
    obtain ⟨n, hn, hnread⟩ := hread ha
    obtain ⟨node', heq, hproperties⟩ := properties_of_readNode hnread
    cases heq
    obtain ⟨key, p, hp, hkind, hnode⟩ := (namesNode_iff hproperties b).mp hnames
    obtain ⟨n', hn', _⟩ := hread hb
    exact ⟨n, key, p, hn, hp, hkind, hnode, Option.isSome_iff_exists.mpr ⟨n', hn'⟩⟩

/-- A template is read and then checked for circles. -/
theorem outcome_read (members : Members) (outside : Json) :
    (read members outside).outcome = (ofMembers members outside).mapError .config >>= fun t =>
      match t.findCycle with
      | none => .ok t
      | some circle => .error (.config (.cyclic circle)) := by
  unfold read
  rw [Traced.outcome_bind, Traced.outcome_lift]
  congr 1
  funext t
  rw [Traced.outcome_bind]
  unfold ResourceTemplate.checkReferences
  cases t.findCycle with
  | some circle => rfl
  | none =>
    obtain ⟨_, hreports⟩ := succeeds_reports t.dangling
    dsimp only
    rw [hreports]
    rfl

theorem outcome_read_of_ok {outside : Json} {t : ResourceTemplate} (h : ofMembers members outside = .ok t) :
    (read members outside).outcome =
      match t.findCycle with
      | none => .ok t
      | some circle => .error (.config (.cyclic circle)) := by
  rw [outcome_read, h]
  rfl

/-- **Exactly the well-formed files are read.** A template is read if and only if its members are well-formed. Whatever
    else stands in its place is refused as a wrong configuration, and nothing fails in any other way. -/
theorem read_wellFormed (members : Members) (outside : Json) :
    ((∃ t, (read members outside).outcome = .ok t) ↔ WellFormed members outside) ∧
      ((∃ t, (read members outside).outcome = .ok t) ∨
        ∃ refusal, (read members outside).outcome = .error (.config refusal)) := by
  cases hmembers : ofMembers members outside with
  | error refusal =>
    have hrefused : (read members outside).outcome = .error (.config refusal) := by
      rw [outcome_read, hmembers]
      rfl
    refine ⟨?_, .inr ⟨refusal, hrefused⟩⟩
    rw [hrefused]
    constructor
    · intro h
      exact absurd h (not_succeeds_error _)
    · intro h
      have hread := succeeds_ofMembers.mpr ⟨h.subject, h.nodes, h.scope, h.type, h.properties⟩
      rw [hmembers] at hread
      exact absurd hread (not_succeeds_error refusal)
  | ok t =>
    obtain ⟨hsubject, hnodes, hscope, htype, hproperties⟩ := succeeds_ofMembers.mp ⟨t, hmembers⟩
    have hrefers : t.RefersTo = Refers members := by
      funext a b
      exact propext (refersTo_iff hmembers a b)
    cases hcycle : t.findCycle with
    | none =>
      have hread : (read members outside).outcome = .ok t := by rw [outcome_read_of_ok hmembers, hcycle]
      have hacyclic := ResourceTemplate.acyclic_of_findCycle hcycle
      rw [hrefers] at hacyclic
      exact ⟨iff_of_true ⟨t, hread⟩ ⟨hsubject, hnodes, hscope, htype, hproperties, hacyclic⟩, .inl ⟨t, hread⟩⟩
    | some circle =>
      have hrefused : (read members outside).outcome = .error (.config (.cyclic circle)) := by
        rw [outcome_read_of_ok hmembers, hcycle]
      obtain ⟨id, hid⟩ := (ResourceTemplate.isCircle_of_findCycle hcycle).transGen
      rw [hrefers] at hid
      refine ⟨?_, .inr ⟨_, hrefused⟩⟩
      rw [hrefused]
      exact iff_of_false (not_succeeds_error _) fun h => h.acyclic id hid

end Template

end GraphLift
