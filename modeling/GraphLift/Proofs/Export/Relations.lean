import GraphLift.Proofs.Export.Reading

/-! # Relations between declared elements

    A root configuration declares elements under identifiers, and its relations name them. Identifiers of elements are
    read as labels, whatever values they are written as; ends of relations are compared as they are written.

    * **Declarations** (`RootConfig.Declares`): every end of a relation is written as the identifier of some element is.
    * **Ends** (`RootConfig.readEnd_of_text`, `RootConfig.readEnd_of_single`): a text that is the identifier of an element
      is known, and a single value of any other kind is not.
    * **Relations** (`RootConfig.read_relations`): if the ends are texts, every relation is read and is one between the
      elements that it names. Otherwise the first end that is no text is reported as unknown.
-/

namespace GraphLift

open Outcome

/-- The value is a list of objects, or it counts as nothing. -/
def Json.HoldsObjects (v : Json) (entries : List (List (String × Json))) : Prop :=
  v = .array (entries.map .object) ∨ v.isTruthy = false ∧ entries = []

/-- The value is an object, or it counts as nothing. -/
def Json.IsTable (v : Json) : Prop :=
  v.isTruthy = false ∨ ∃ entries, v = .object entries

def Json.IsText (v : Json) : Prop :=
  ∃ s, v = .text s

namespace RootConfig

/-- The members of an element or of a relation. -/
abbrev Entry := List (String × Json)

variable {members : List (String × Json)} {elements relations : List Entry} {ids : List String} {index : Nat}

/-! ## Declarations -/

/-- The members of a relation that name elements. -/
def sides : List String := ["subject", "object"]

theorem subject_mem_sides : "subject" ∈ sides := by decide

theorem object_mem_sides : "object" ∈ sides := by decide

/-- The identifiers of elements, as labels. -/
def declaredIds (elements : List Entry) : List String :=
  elements.map fun e => (Json.field e "id").label

/-- A root configuration with complete elements, the identifiers of which differ as labels, and with complete relations,
    the ends of which are single values, each the same as the identifier of an element. -/
structure Declares (members : List (String × Json)) (elements relations : List Entry) : Prop where
  listsElements : (Json.field members "elements").HoldsObjects elements
  complete : ∀ e ∈ elements, (Json.field e "id").isTruthy = true ∧ (Json.field e "file").isTruthy = true
  distinct : (declaredIds elements).Nodup
  listsRelations : (Json.field members "relations").HoldsObjects relations
  predicates : ∀ r ∈ relations, (Json.field r "predicate").isTruthy = true
  ends : ∀ r ∈ relations, ∀ side ∈ sides,
    (Json.field r side).IsSingle ∧ ∃ e ∈ elements, Json.field e "id" = Json.field r side

/-- The ends of all relations are texts. -/
def TextualEnds (relations : List Entry) : Prop :=
  ∀ r ∈ relations, ∀ side ∈ sides, (Json.field r side).IsText

/-- The element as it is read from its members. -/
def declaredElement (e : Entry) : Element :=
  ⟨(Json.field e "id").label, Json.field e "type", (Json.field e "file").label⟩

/-- The relation as it is read from its members. -/
def declaredRelation (r : Entry) : Relation :=
  ⟨(Json.field r "subject").label, Json.field r "predicate", (Json.field r "object").label⟩

/-- The identifier is that of the element which is declared under the value. -/
def Names (elements : List Entry) (root : RootConfig) (v : Json) (id : String) : Prop :=
  ∃ (i : Nat) (entry : Entry) (element : Element), elements[i]? = some entry ∧ Json.field entry "id" = v ∧
    root.elements[i]? = some element ∧ element.id = id

theorem walkThrough_of_holdsObjects {v : Json} {entries : List Entry} (h : v.HoldsObjects entries) :
    walkThrough v = .ok (entries.map .object) := by
  rcases h with rfl | ⟨hnothing, rfl⟩
  · cases entries <;> rfl
  · simp [walkThrough, hnothing]

/-- A list of objects is read one by one. -/
theorem readEach_objects {α : Type} {read : Nat → Json → Except Failure α} {g : Entry → α}
    {entries : List Entry} (h : ∀ i, ∀ e ∈ entries, read i (.object e) = .ok (g e)) :
    readEach read index (entries.map .object) = .ok (entries.map g) := by
  induction entries generalizing index with
  | nil => rfl
  | cons e rest ih =>
    rw [List.map_cons, readEach, h index e List.mem_cons_self, ih fun i e' he' => h i e' (List.mem_cons_of_mem _ he')]
    rfl

namespace Declares

variable (h : Declares members elements relations)

include h

/-- Ends count as something, as the identifiers do that they are the same as. -/
theorem isTruthy_end {r : Entry} (hr : r ∈ relations) {side : String} (hside : side ∈ sides) :
    (Json.field r side).isTruthy = true := by
  obtain ⟨_, e, he, hid⟩ := h.ends r hr side hside
  rw [← hid]
  exact (h.complete e he).1

theorem mem_ids {r : Entry} (hr : r ∈ relations) {side s : String} (hside : side ∈ sides)
    (hs : Json.field r side = .text s) : s ∈ declaredIds elements := by
  obtain ⟨_, e, he, hid⟩ := h.ends r hr side hside
  refine List.mem_map.mpr ⟨e, he, ?_⟩
  rw [hid, hs]
  rfl

theorem readElements : readEach readElement 0 (elements.map .object) = .ok (elements.map declaredElement) := by
  refine readEach_objects fun i e he => ?_
  obtain ⟨hid, hfile⟩ := h.complete e he
  simp [readElement, completeMembers?, hid, hfile, declaredElement]

theorem completeMembers?_relation {r : Entry} (hr : r ∈ relations) :
    completeMembers? ["subject", "predicate", "object"] (.object r) = some r := by
  have hsubject := h.isTruthy_end hr subject_mem_sides
  have hobject := h.isTruthy_end hr object_mem_sides
  simp [completeMembers?, hsubject, hobject, h.predicates r hr]

end Declares

/-! ## Ends -/

theorem readEnd_of_text {side s : String} (hs : s ∈ ids) : readEnd ids index side (.text s) = .ok s := by
  simp [readEnd, hs]

/-- A single value that is no text is not looked for among the identifiers as the label that it would be there. -/
theorem readEnd_of_single {side : String} {v : Json} (hsingle : v.IsSingle) (htext : ¬ v.IsText) :
    readEnd ids index side v = .error (.config (.relationUnknown index side v)) := by
  cases v with
  | array items => exact hsingle.elim
  | object entries => exact hsingle.elim
  | text s => exact absurd ⟨s, rfl⟩ htext
  | null => rfl
  | bool b => rfl
  | int n => rfl
  | real x => rfl

/-- A relation between texts that are identifiers is read as it is declared. -/
theorem readRelation_of_text {r : Entry}
    (hcomplete : completeMembers? ["subject", "predicate", "object"] (.object r) = some r)
    (hends : ∀ side ∈ sides, ∃ s ∈ ids, Json.field r side = .text s) :
    readRelation ids index (.object r) = .ok (declaredRelation r) := by
  obtain ⟨s, hs, hsubject⟩ := hends "subject" subject_mem_sides
  obtain ⟨o, ho, hobject⟩ := hends "object" object_mem_sides
  simp only [readRelation, hcomplete, hsubject, hobject, readEnd_of_text hs, readEnd_of_text ho, declaredRelation]
  rfl

/-- The first end of a relation that is no text is reported. -/
theorem readRelation_of_single (index : Nat) {r : Entry}
    (hcomplete : completeMembers? ["subject", "predicate", "object"] (.object r) = some r)
    (hsingle : ∀ side ∈ sides, (Json.field r side).IsSingle)
    (hknown : ∀ side ∈ sides, ∀ s, Json.field r side = .text s → s ∈ ids)
    (htext : ¬ ∀ side ∈ sides, (Json.field r side).IsText) :
    ∃ side ∈ sides, ¬ (Json.field r side).IsText ∧
      readRelation ids index (.object r) = .error (.config (.relationUnknown index side (Json.field r side))) := by
  by_cases hsubject : (Json.field r "subject").IsText
  · have hobject : ¬ (Json.field r "object").IsText := by
      intro hobject
      refine htext fun side hside => ?_
      rcases List.mem_pair.mp hside with rfl | rfl
      · exact hsubject
      · exact hobject
    obtain ⟨s, hs⟩ := hsubject
    refine ⟨"object", object_mem_sides, hobject, ?_⟩
    simp only [readRelation, hcomplete, hs, readEnd_of_text (hknown "subject" subject_mem_sides s hs),
      readEnd_of_single (hsingle "object" object_mem_sides) hobject]
    rfl
  · refine ⟨"subject", subject_mem_sides, hsubject, ?_⟩
    simp only [readRelation, hcomplete, readEnd_of_single (hsingle "subject" subject_mem_sides) hsubject]
    rfl

/-! ## Relations -/

/-- Relations are read as they are declared, or the first end that is no text is reported. -/
theorem Declares.readEach_relations (h : Declares members elements relations) (index : Nat) {rs : List Entry}
    (hrs : rs ⊆ relations) :
    (TextualEnds rs ∧
        readEach (readRelation (declaredIds elements)) index (rs.map .object) = .ok (rs.map declaredRelation)) ∨
      ∃ k r side, rs[k]? = some r ∧ side ∈ sides ∧ ¬ (Json.field r side).IsText ∧
        readEach (readRelation (declaredIds elements)) index (rs.map .object) =
          .error (.config (.relationUnknown (index + k) side (Json.field r side))) := by
  -- the index counts the relations that have been read, so the place of an end in the rest is one more
  induction rs generalizing index with
  | nil => exact .inl ⟨fun r hr => absurd hr List.not_mem_nil, rfl⟩
  | cons r rest ih =>
    obtain ⟨hr, hrest⟩ := List.cons_subset.mp hrs
    have hcomplete := h.completeMembers?_relation hr
    have hknown : ∀ side ∈ sides, ∀ s, Json.field r side = .text s → s ∈ declaredIds elements :=
      fun side hside s hs => h.mem_ids hr hside hs
    rw [List.map_cons, readEach]
    by_cases htext : ∀ side ∈ sides, (Json.field r side).IsText
    · have hends : ∀ side ∈ sides, ∃ s ∈ declaredIds elements, Json.field r side = .text s := by
        intro side hside
        obtain ⟨s, hs⟩ := htext side hside
        exact ⟨s, hknown side hside s hs, hs⟩
      rw [readRelation_of_text hcomplete hends]
      rcases ih (index + 1) hrest with ⟨htexts, hread⟩ | ⟨k, r', side, hk, hside, hnot, hread⟩
      · refine .inl ⟨?_, by rw [hread]; rfl⟩
        intro r' hr'
        rcases List.mem_cons.mp hr' with rfl | hr'
        · exact htext
        · exact htexts r' hr'
      · refine .inr ⟨k + 1, r', side, hk, hside, hnot, ?_⟩
        rw [hread, Nat.add_assoc, Nat.add_comm 1 k]
        rfl
    · have hsingle : ∀ side ∈ sides, (Json.field r side).IsSingle := fun side hside => (h.ends r hr side hside).1
      obtain ⟨side, hside, hnot, hread⟩ := readRelation_of_single index hcomplete hsingle hknown htext
      refine .inr ⟨0, r, side, rfl, hside, hnot, ?_⟩
      rw [hread]
      rfl

/-- What comes out of reading depends on the prefixes, the relations and the formats, one after the other. -/
theorem Declares.outcome_read (h : Declares members elements relations) :
    (read members).outcome = (do
      let prefixes ← tableMember members "prefixes"
      let read ← readEach (readRelation (declaredIds elements)) 0 (relations.map .object)
      let formats ← tableMember members "formats" >>= fun entries => (entries.foldlM readFlag {}).outcome
      return {
        trace := (Json.field members "trace").toFlag false
        prefixes := prefixes.map fun p => (p.1, p.2.label)
        elements := elements.map declaredElement
        relations := read
        formats }) := by
  have hids : (elements.map declaredElement).map (·.id) = declaredIds elements := by
    rw [List.map_map]
    rfl
  have hlift : ∀ {α : Type} (x : Except Failure α), (liftM x : Traced α).outcome = x := fun _ => rfl
  simp only [read, Traced.outcome_bind, hlift, walkThrough_of_holdsObjects h.listsElements]
  cases tableMember members "prefixes" with
  | error e => rfl
  | ok prefixes =>
    show (readEach readElement 0 (elements.map .object) >>= _) = _
    rw [h.readElements]
    show Traced.outcome (if ¬ ((elements.map declaredElement).map (·.id)).Nodup then _ else _) = _
    -- no identifier is declared twice
    rw [hids, if_neg (not_not.mpr h.distinct)]
    simp only [Traced.outcome_bind, hlift, walkThrough_of_holdsObjects h.listsRelations]
    show (readEach (readRelation (declaredIds elements)) 0 (relations.map .object) >>= _) =
      (readEach (readRelation (declaredIds elements)) 0 (relations.map .object) >>= _)
    cases readEach (readRelation (declaredIds elements)) 0 (relations.map .object) with
    | error e => rfl
    | ok rs =>
      show (tableMember members "formats" >>= _) = ((tableMember members "formats" >>= _) >>= _)
      cases tableMember members "formats" with
      | error e => rfl
      | ok entries => rfl

/-- An end that is a text is that of the element which is declared under it. -/
theorem Declares.names_label (h : Declares members elements relations) {root : RootConfig}
    (hroot : root.elements = elements.map declaredElement) {r : Entry} (hr : r ∈ relations) {side : String}
    (hside : side ∈ sides) : Names elements root (Json.field r side) (Json.field r side).label := by
  obtain ⟨_, e, he, hid⟩ := h.ends r hr side hside
  obtain ⟨i, hi, rfl⟩ := List.getElem_of_mem he
  refine ⟨i, elements[i], declaredElement elements[i], List.getElem?_eq_getElem hi, hid, ?_, ?_⟩
  · rw [hroot, List.getElem?_map, List.getElem?_eq_getElem hi]
    rfl
  · rw [declaredElement, hid]

theorem succeeds_tableMember {name : String} (h : (Json.field members name).IsTable) :
    Succeeds (tableMember members name) := by
  unfold tableMember
  rcases h with hnothing | ⟨entries, hentries⟩
  · simp only [hnothing]
    exact succeeds_ok _
  · rw [hentries]
    dsimp only
    split
    · exact succeeds_ok _
    · exact succeeds_ok _

theorem succeeds_readFlags (entries : List (String × Json)) : Succeeds (entries.foldlM readFlag {}).outcome := by
  rw [outcome_readFlags]
  exact succeeds_ok _

/-- The failure is a report of a relation to an unknown element. -/
def IsUnknownEnd (e : Failure) : Prop :=
  ∃ index side v, e = .config (.relationUnknown index side v)

theorem not_isUnknownEnd_notObject (name : String) : ¬ IsUnknownEnd (.config (.notObject name)) := by
  rintro ⟨index, side, v, h⟩
  cases h

/-- **Relations can name every element by a text**: if all ends are texts that are identifiers of elements, no relation is
    reported as being to an unknown element, and each is one between the elements which it names. An end of any other
    kind is reported as unknown, although an element is declared under the very same value. -/
theorem read_relations (h : Declares members elements relations) :
    (TextualEnds relations →
      (∀ e, (read members).outcome = .error e → ¬ IsUnknownEnd e) ∧
      ((Json.field members "prefixes").IsTable → (Json.field members "formats").IsTable →
        Succeeds (read members).outcome) ∧
      ∀ root, (read members).outcome = .ok root → List.Forall₂ (fun r x =>
        Names elements root (Json.field r "subject") x.subject ∧
          Names elements root (Json.field r "object") x.object) relations root.relations) ∧
    (¬ TextualEnds relations → (Json.field members "prefixes").IsTable →
      ∃ index r side, relations[index]? = some r ∧ side ∈ sides ∧ ¬ (Json.field r side).IsText ∧
        (read members).outcome = .error (.config (.relationUnknown index side (Json.field r side)))) := by
  rw [h.outcome_read]
  rcases h.readEach_relations 0 (List.Subset.refl _) with ⟨htexts, hread⟩ | ⟨k, r, side, hk, hside, hnot, hread⟩
  · refine ⟨fun _ => ⟨?_, ?_, ?_⟩, fun hnot => absurd htexts hnot⟩
    · -- the prefixes and the formats may be refused, but the relations are not
      show FailsOnly (fun e => ¬ IsUnknownEnd e) _
      refine (failsOnly_tableMember (not_isUnknownEnd_notObject _)).bind fun prefixes _ => ?_
      rw [hread]
      refine (failsOnly_ok _).bind fun rs _ => ?_
      refine FailsOnly.bind ?_ fun formats _ => failsOnly_pure _
      exact (failsOnly_tableMember (not_isUnknownEnd_notObject _)).bind fun entries _ => failsOnly_readFlags entries {}
    · intro hprefixes hformats
      refine (succeeds_tableMember hprefixes).bind fun prefixes _ => ?_
      rw [hread]
      refine (succeeds_ok _).bind fun rs _ => ?_
      refine Succeeds.bind ?_ fun formats _ => succeeds_pure _
      exact (succeeds_tableMember hformats).bind fun entries _ => succeeds_readFlags entries
    · intro root hroot
      obtain ⟨prefixes, _, hroot⟩ := bind_eq_ok.mp hroot
      obtain ⟨rs, hrs, hroot⟩ := bind_eq_ok.mp hroot
      obtain ⟨formats, _, hroot⟩ := bind_eq_ok.mp hroot
      cases hread.symm.trans hrs
      cases hroot
      refine List.forall₂_map_right_iff.mpr (List.forall₂_same.mpr fun r hr => ?_)
      exact ⟨h.names_label rfl hr subject_mem_sides, h.names_label rfl hr object_mem_sides⟩
  · refine ⟨fun htexts => ?_, fun _ hprefixes => ⟨k, r, side, hk, hside, hnot, ?_⟩⟩
    · exact absurd (htexts r (List.mem_of_getElem? hk) side hside) hnot
    · obtain ⟨prefixes, hprefixes⟩ := succeeds_tableMember hprefixes
      rw [hprefixes, hread, Nat.zero_add]
      rfl

/-! ## One element, related to itself -/

/-- A root configuration with one element and a relation of it to itself, both written with the same identifier. -/
def selfRelated (id : Json) : List (String × Json) :=
  [("elements", .array [.object [("id", id), ("file", .text "t")]]),
    ("relations", .array [.object [("subject", id), ("predicate", .text "p"), ("object", id)]])]

theorem declares_selfRelated (id : Json) (htruthy : id.isTruthy = true) (hsingle : id.IsSingle) :
    Declares (selfRelated id) [[("id", id), ("file", .text "t")]]
      [[("subject", id), ("predicate", .text "p"), ("object", id)]] where
  listsElements := .inl rfl
  complete := by
    intro e he
    cases List.mem_singleton.mp he
    exact ⟨htruthy, rfl⟩
  distinct := List.nodup_singleton _
  listsRelations := .inl rfl
  predicates := by
    intro r hr
    cases List.mem_singleton.mp hr
    rfl
  ends := by
    intro r hr side hside
    cases List.mem_singleton.mp hr
    rcases List.mem_pair.mp hside with rfl | rfl
    · exact ⟨hsingle, _, List.mem_singleton_self _, rfl⟩
    · exact ⟨hsingle, _, List.mem_singleton_self _, rfl⟩

/-- A text as the identifier can be named. -/
theorem read_relations_ofText :
    Declares (selfRelated (.text "a")) [[("id", .text "a"), ("file", .text "t")]]
      [[("subject", .text "a"), ("predicate", .text "p"), ("object", .text "a")]] ∧
    TextualEnds [[("subject", .text "a"), ("predicate", .text "p"), ("object", .text "a")]] ∧
    Succeeds (read (selfRelated (.text "a"))).outcome := by
  have hdeclares := declares_selfRelated (.text "a") rfl trivial
  have htexts : TextualEnds [[("subject", .text "a"), ("predicate", .text "p"), ("object", .text "a")]] := by
    intro r hr side hside
    cases List.mem_singleton.mp hr
    rcases List.mem_pair.mp hside with rfl | rfl
    · exact ⟨"a", rfl⟩
    · exact ⟨"a", rfl⟩
  exact ⟨hdeclares, htexts, ((read_relations hdeclares).1 htexts).2.1 (.inl rfl) (.inl rfl)⟩

/-- A number as the identifier cannot be named: the element is declared under its label, and the relation is refused. -/
theorem read_ofNumber :
    Declares (selfRelated (.int 1)) [[("id", .int 1), ("file", .text "t")]]
      [[("subject", .int 1), ("predicate", .text "p"), ("object", .int 1)]] ∧
    (read (selfRelated (.int 1))).outcome = .error (.config (.relationUnknown 0 "subject" (.int 1))) :=
  ⟨declares_selfRelated (.int 1) rfl trivial, rfl⟩

end RootConfig

end GraphLift
