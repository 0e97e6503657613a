import GraphLift.Export.Reader
import GraphLift.Proofs.PrefixTable

/-! # What is read from a root configuration

    A root configuration is read member by member, and what comes out of it goes back to what was written.

    * **Parts** (`RootConfig.ReadFrom`): elements and relations are read from the values of their members, one by one.
    * **Ends** (`RootConfig.ends_of_read`): the relations of a root configuration that was read are between elements of it.
    * **Kinds of members** that are not checked beforehand are those of a root configuration that is foreseen
      (`RootConfig.Foreseen`). Whatever else is wrong with it is refused (`RootConfig.failsOnly_read`).
-/

namespace GraphLift

open Outcome

/-- The value is neither a list nor an object. -/
def Json.IsSingle : Json → Prop
  | .array _ | .object _ => False
  | _ => True

namespace RootConfig

variable {members : List (String × Json)} {root : RootConfig} {ids : List String} {index : Nat}

/-! ## Parts -/

/-- Everything that is read from a list is read from one of its values. -/
theorem mem_of_readEach {α : Type} {read : Nat → Json → Except Failure α} {vs : List Json} {as : List α} {a : α}
    (h : readEach read index vs = .ok as) (ha : a ∈ as) : ∃ i, ∃ v ∈ vs, read i v = .ok a := by
  induction vs generalizing index as with
  | nil =>
    cases h
    cases ha
  | cons v rest ih =>
    obtain ⟨head, hhead, h⟩ := bind_eq_ok.mp h
    obtain ⟨tail, htail, h⟩ := bind_eq_ok.mp h
    cases h
    rcases List.mem_cons.mp ha with rfl | ha
    · exact ⟨index, v, List.mem_cons_self, hhead⟩
    · obtain ⟨i, v', hv', hread⟩ := ih htail ha
      exact ⟨i, v', List.mem_cons_of_mem _ hv', hread⟩

/-- A root configuration is read from members: its prefixes, elements and relations are those that are written there. -/
structure ReadFrom (members : List (String × Json)) (root : RootConfig) : Prop where
  prefixes : ∃ entries, tableMember members "prefixes" = .ok entries ∧
    root.prefixes = entries.map fun p => (p.1, p.2.label)
  elements : ∃ values, walkThrough (Json.field members "elements") = .ok values ∧
    readEach readElement 0 values = .ok root.elements
  distinct : (root.elements.map (·.id)).Nodup
  relations : ∃ values, walkThrough (Json.field members "relations") = .ok values ∧
    readEach (readRelation (root.elements.map (·.id))) 0 values = .ok root.relations

theorem readFrom_of_read (h : (read members).outcome = .ok root) : ReadFrom members root := by
  simp only [read, Traced.outcome_bind, bind_eq_ok] at h
  obtain ⟨prefixes, hprefixes, values, hvalues, elements, helements, h⟩ := h
  split at h
  · rw [Traced.outcome_bind, Traced.outcome_throw] at h
    cases h
  · next hdistinct =>
    simp only [Traced.outcome_bind, bind_eq_ok] at h
    obtain ⟨values', hvalues', relations, hrelations, flagValues, _, formats, _, h⟩ := h
    cases h
    exact ⟨⟨prefixes, hprefixes, rfl⟩, ⟨values, hvalues, helements⟩, Decidable.not_not.mp hdistinct,
      ⟨values', hvalues', hrelations⟩⟩

/-- The identifiers of the elements of a root configuration differ. -/
theorem distinct_of_read (h : (read members).outcome = .ok root) : (root.elements.map (·.id)).Nodup :=
  (readFrom_of_read h).distinct

/-! ## Ends of relations -/

theorem readEnd_eq_ok {side s : String} {v : Json} (h : readEnd ids index side v = .ok s) : s ∈ ids := by
  unfold readEnd at h
  split at h
  · cases h
  · cases h
  · split at h
    · next hknown =>
      cases h
      exact List.contains_iff_mem.mp hknown
    · cases h
  · cases h

/-- A relation is read from an object that has its three members. Its ends are known. -/
theorem readRelation_eq_ok {v : Json} {r : Relation} (h : readRelation ids index v = .ok r) :
    ∃ entries, completeMembers? ["subject", "predicate", "object"] v = some entries ∧
      r.predicate = Json.field entries "predicate" ∧ r.subject ∈ ids ∧ r.object ∈ ids := by
  unfold readRelation at h
  split at h
  · cases h
  · next entries hcomplete =>
    obtain ⟨subject, hsubject, h⟩ := bind_eq_ok.mp h
    obtain ⟨object, hobject, h⟩ := bind_eq_ok.mp h
    cases h
    exact ⟨entries, hcomplete, rfl, readEnd_eq_ok hsubject, readEnd_eq_ok hobject⟩

/-- Relations of a root configuration are between elements of it. -/
theorem ends_of_read (h : (read members).outcome = .ok root) {r : Relation} (hr : r ∈ root.relations) :
    r.subject ∈ root.elements.map (·.id) ∧ r.object ∈ root.elements.map (·.id) := by
  obtain ⟨values, _, hread⟩ := (readFrom_of_read h).relations
  obtain ⟨i, v, _, hv⟩ := mem_of_readEach hread hr
  obtain ⟨_, _, _, hends⟩ := readRelation_eq_ok hv
  exact hends

/-! ## Kinds of members -/

/-- Among the values of a member there is an object, the named members of which all count as something. -/
def Lists (members : List (String × Json)) (name : String) (names : List String) (entry : List (String × Json)) : Prop :=
  ∃ values, walkThrough (Json.field members name) = .ok values ∧ ∃ v ∈ values, completeMembers? names v = some entry

/-- Where nothing checks what is written, it is of the kind that is reckoned with. -/
structure Foreseen (members : List (String × Json)) : Prop where
  elements : (Json.field members "elements").isTruthy = true → (Json.field members "elements").IsWalkable
  relations : (Json.field members "relations").isTruthy = true → (Json.field members "relations").IsWalkable
  /-- Prefixes hold no space. -/
  prefixes : ∀ entries, Json.field members "prefixes" = .object entries → ∀ e ∈ entries, ' ' ∉ e.1.toList
  /-- The type of an element is a text, unless it counts as nothing. -/
  types : ∀ entry, Lists members "elements" ["id", "file"] entry → (Json.field entry "type").isTruthy = true →
    ∃ s, Json.field entry "type" = .text s
  ends : ∀ entry, Lists members "relations" ["subject", "predicate", "object"] entry →
    (Json.field entry "subject").IsSingle ∧ (Json.field entry "object").IsSingle
  predicates : ∀ entry, Lists members "relations" ["subject", "predicate", "object"] entry →
    ∃ s, Json.field entry "predicate" = .text s

variable (hforeseen : Foreseen members)

section

include hforeseen

/-- The prefixes that are read from a foreseen root configuration hold no space. -/
theorem Foreseen.prefixes_of_read (h : (read members).outcome = .ok root) : ∀ p ∈ root.prefixes, ' ' ∉ p.1.toList := by
  obtain ⟨entries, hentries, hprefixes⟩ := (readFrom_of_read h).prefixes
  intro p hp
  rw [hprefixes] at hp
  obtain ⟨e, he, rfl⟩ := List.mem_map.mp hp
  unfold tableMember at hentries
  dsimp only at hentries
  split at hentries
  · cases hentries
    cases he
  · split at hentries
    · next hfield =>
      cases hentries
      exact hforeseen.prefixes _ hfield e he
    · cases hentries

theorem Foreseen.types_of_read (h : (read members).outcome = .ok root) :
    ∀ e ∈ root.elements, e.typeRef.isTruthy = true → ∃ s, e.typeRef = .text s := by
  obtain ⟨values, hvalues, hread⟩ := (readFrom_of_read h).elements
  intro e he
  obtain ⟨i, v, hv, hread⟩ := mem_of_readEach hread he
  unfold readElement at hread
  split at hread
  · cases hread
  · next entry hcomplete =>
    cases hread
    exact hforeseen.types entry ⟨values, hvalues, v, hv, hcomplete⟩

theorem Foreseen.predicates_of_read (h : (read members).outcome = .ok root) :
    ∀ r ∈ root.relations, ∃ s, r.predicate = .text s := by
  obtain ⟨values, hvalues, hread⟩ := (readFrom_of_read h).relations
  intro r hr
  obtain ⟨i, v, hv, hread⟩ := mem_of_readEach hread hr
  obtain ⟨entry, hcomplete, hpredicate, _⟩ := readRelation_eq_ok hread
  rw [hpredicate]
  exact hforeseen.predicates entry ⟨values, hvalues, v, hv, hcomplete⟩

end

/-! ## Refusal -/

/-- The failure is a refusal of a configuration. -/
def IsRefusal (e : Failure) : Prop :=
  ∃ cause, e = .config cause

theorem failsOnly_walkThrough {P : Failure → Prop} {v : Json} (h : v.isTruthy = true → v.IsWalkable) :
    FailsOnly P (walkThrough v) := by
  unfold walkThrough
  by_cases htruthy : v.isTruthy = true
  · have hwalkable := h htruthy
    rw [htruthy]
    cases v with
    | array items => exact failsOnly_ok _
    | text s => exact failsOnly_ok _
    | object entries => exact failsOnly_ok _
    | null => exact hwalkable.elim
    | bool b => exact hwalkable.elim
    | int n => exact hwalkable.elim
    | real x => exact hwalkable.elim
  · rw [show v.isTruthy = false by simpa using htruthy]
    exact failsOnly_ok _

theorem failsOnly_readEach {α : Type} {P : Failure → Prop} {read : Nat → Json → Except Failure α} {vs : List Json}
    (h : ∀ i, ∀ v ∈ vs, FailsOnly P (read i v)) : FailsOnly P (readEach read index vs) := by
  induction vs generalizing index with
  | nil => exact failsOnly_ok _
  | cons v rest ih =>
    rw [readEach]
    refine (h index v List.mem_cons_self).bind fun head _ => ?_
    exact (ih fun i v' hv' => h i v' (List.mem_cons_of_mem _ hv')).bind fun tail _ => failsOnly_pure _

theorem failsOnly_readElement (index : Nat) (v : Json) : FailsOnly IsRefusal (readElement index v) := by
  unfold readElement
  split
  · exact failsOnly_error ⟨_, rfl⟩
  · exact failsOnly_ok _

/-- An end of a relation that can be compared is known, or it is refused. -/
theorem failsOnly_readEnd {side : String} {v : Json} (h : v.IsSingle) :
    FailsOnly IsRefusal (readEnd ids index side v) := by
  cases v with
  | array items => exact h.elim
  | object entries => exact h.elim
  | text s =>
    unfold readEnd
    dsimp only
    split
    · exact failsOnly_ok _
    · exact failsOnly_error ⟨_, rfl⟩
  | null => exact failsOnly_error ⟨_, rfl⟩
  | bool b => exact failsOnly_error ⟨_, rfl⟩
  | int n => exact failsOnly_error ⟨_, rfl⟩
  | real x => exact failsOnly_error ⟨_, rfl⟩

theorem failsOnly_readRelation {v : Json} (h : ∀ entry, completeMembers? ["subject", "predicate", "object"] v = some entry →
    (Json.field entry "subject").IsSingle ∧ (Json.field entry "object").IsSingle) :
    FailsOnly IsRefusal (readRelation ids index v) := by
  unfold readRelation
  split
  · exact failsOnly_error ⟨_, rfl⟩
  · next entry hcomplete =>
    obtain ⟨hsubject, hobject⟩ := h entry hcomplete
    refine (failsOnly_readEnd hsubject).bind fun subject _ => ?_
    exact (failsOnly_readEnd hobject).bind fun object _ => failsOnly_pure _

/-- A member fails to be a table only by being something other than an object. -/
theorem failsOnly_tableMember {P : Failure → Prop} {name : String} (h : P (.config (.notObject name))) :
    FailsOnly P (tableMember members name) := by
  unfold tableMember
  dsimp only
  split
  · exact failsOnly_ok _
  · split
    · exact failsOnly_ok _
    · exact failsOnly_error h

/-- The flags once an entry is read. -/
def withFlag (flags : FormatFlags) (e : String × Json) : FormatFlags :=
  match Format.named? (Text.lowerCase e.1) with
  | some format => flags.set format (e.2.toFlag true)
  | none => flags

theorem outcome_readFlag (flags : FormatFlags) (e : String × Json) :
    (readFlag flags e).outcome = .ok (withFlag flags e) := by
  unfold readFlag withFlag
  cases Format.named? (Text.lowerCase e.1) <;> rfl

/-- Reading a table of flags never fails. -/
theorem outcome_readFlags (entries : List (String × Json)) (flags : FormatFlags) :
    (entries.foldlM readFlag flags).outcome = .ok (entries.foldl withFlag flags) := by
  induction entries generalizing flags with
  | nil => rfl
  | cons e rest ih =>
    rw [List.foldlM_cons, Traced.outcome_bind, outcome_readFlag, List.foldl_cons, ← ih]
    rfl

theorem failsOnly_readFlags {P : Failure → Prop} (entries : List (String × Json)) (flags : FormatFlags) :
    FailsOnly P (entries.foldlM readFlag flags).outcome := by
  rw [outcome_readFlags]
  exact failsOnly_ok _

include hforeseen in
/-- A root configuration that is foreseen is read, or it is refused. -/
theorem failsOnly_read : FailsOnly IsRefusal (read members).outcome := by
  simp only [read, Traced.outcome_bind]
  refine (failsOnly_tableMember ⟨_, rfl⟩).bind fun prefixes _ => ?_
  refine (failsOnly_walkThrough hforeseen.elements).bind fun values _ => ?_
  refine (failsOnly_readEach fun i v _ => failsOnly_readElement i v).bind fun elements _ => ?_
  split
  · exact failsOnly_error ⟨_, rfl⟩
  · simp only [Traced.outcome_bind]
    refine (failsOnly_walkThrough hforeseen.relations).bind fun values' hvalues' => ?_
    refine FailsOnly.bind ?_ fun relations _ => ?_
    · exact failsOnly_readEach fun i v hv => failsOnly_readRelation fun entry hcomplete =>
        hforeseen.ends entry ⟨values', hvalues', v, hv, hcomplete⟩
    · refine (failsOnly_tableMember ⟨_, rfl⟩).bind fun flags _ => ?_
      exact (failsOnly_readFlags flags {}).bind fun formats _ => failsOnly_ok _

end RootConfig

end GraphLift
