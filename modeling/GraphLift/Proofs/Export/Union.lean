import GraphLift.Proofs.Export.Order
import GraphLift.Proofs.Mapping.Success

/-! # An export is the union of its elements

    The graph of an export holds what every element gives by itself, and the links of the relations between the
    subjects of two elements, and nothing else. Blank nodes of different elements are different.

    * **Numbering apart** (`exists_apart`): what comes out of groups of descriptions is what comes out of each of them
      alone, with the blank nodes of every group renamed in a way of its own.
    * **The union** (`ofFiles_union`) of what the elements give alone and of the links is the graph of the export.
-/

namespace GraphLift

open Outcome

namespace Export

variable {groups : List (String × List Description)} {ρ : Nat → Nat → Nat}

/-! ## Numbering apart -/

/-- What comes out of groups of descriptions is what comes out of each of them alone, when `ρ i` renames the blank
    nodes of the `i`-th group, and no two blank nodes of all groups are taken to one. -/
structure Apart (groups : List (String × List Description)) (ρ : Nat → Nat → Nat) : Prop where
  injective : ∀ i j n n', ρ i n = ρ j n' → i = j ∧ n = n'
  triples : ∀ t, t ∈ (emitList emitGroup 0 groups).triples ↔
    ∃ (i : Nat) (x : String × List Description) (u : Triple), groups[i]? = some x ∧ u ∈ (emitAll 0 x.2).triples ∧ t = u.rename (ρ i)
  nodes : ∀ i, (emitList emitGroup 0 groups).value[i]? =
    groups[i]?.map fun x => (x.1, (emitAll 0 x.2).value.map (Node.rename (ρ i)))

theorem exists_apart (groups : List (String × List Description)) : ∃ ρ, Apart groups ρ := by
  obtain ⟨whole, hwhole⟩ := exists_reads_emitGroups groups
  choose alone halone using fun x : String × List Description => exists_reads_emitAll x.2 0
  simp only [Nat.zero_add] at halone
  -- from a number in a group to its place there, to the place of that among all groups, and to the number of this one
  let ρ : Nat → Nat → Nat := fun i n => whole (i :: (alone (groups[i]?.getD ("", []))).symm n)
  have hρ : ∀ {i x}, groups[i]? = some x → (fun q => whole ([i] ++ q)) = ρ i ∘ alone x := by
    intro i x hx
    funext q
    simp [ρ, hx]
  -- so a group says among all groups what it says alone, with its blank nodes renamed
  have hsaid : ∀ {i x t}, groups[i]? = some x → (Said whole (partsOfGroup ([] ++ [0 + i]) x) t ↔
      ∃ u, u ∈ (emitAll 0 x.2).triples ∧ t = u.rename (ρ i)) := by
    intro i x t hx
    rw [Nat.zero_add, List.nil_append, (movable_group x).said_alone, hρ hx, said_rename]
    simp only [(halone x).mem_triples, or_false]
    rfl
  refine ⟨ρ, ?_, ?_, ?_⟩
  · intro i j n n' h
    obtain ⟨hi, hn⟩ := List.cons.inj (whole.injective h)
    subst hi
    exact ⟨rfl, (Equiv.injective _) hn⟩
  · intro t
    rw [hwhole.mem_triples, or_false, said_spread]
    constructor
    · intro h
      obtain ⟨i, x, hx, h⟩ := h
      obtain ⟨u, hu, ht⟩ := (hsaid hx).mp h
      exact ⟨i, x, u, hx, hu, ht⟩
    · intro h
      obtain ⟨i, x, u, hx, hu, ht⟩ := h
      exact ⟨i, x, hx, (hsaid hx).mpr ⟨u, hu, ht⟩⟩
  · intro i
    rw [hwhole.value_eq, List.getElem?_mapIdx]
    cases hx : groups[i]? with
    | none => rfl
    | some x =>
      rw [Option.map_some, Option.map_some, (movable_group x).value_alone, hρ hx, nodesOfGroup_rename,
        (halone x).value_eq]
      rfl

/-! ## Elements alone -/

/-- What comes out of descriptions in a graph of their own. -/
def alone (ds : List Description) : Mapper.Mapped :=
  let e := emitAll 0 ds
  ⟨({} : Graph).insertAll e.triples, e.value, e.next⟩

theorem holds_alone {ds : List Description} {t : Triple} :
    (alone ds).graph.holds t = true ↔ ∃ u ∈ (emitAll 0 ds).triples, t.same u = true := by
  unfold alone
  rw [Graph.holds_insertAll]
  constructor
  · intro h
    rcases h with h | h
    · cases h
    · exact h
  · exact .inr

/-- A template maps a document to `r` in a graph of its own, and builds that graph with the namespaces `ns`. -/
inductive MapsAlone [Library] (table : PrefixTable) (document : Json) (ns : Namespaces) (t : ResourceTemplate)
    (r : Mapper.Mapped) : Prop where
  | intro {m : Mapper} (hmapper : Mapper.ofTemplate t table = .ok m)
      (hinto : (m.mapInto {} 0 document).outcome = .ok r)
      (hbuild : (m.build document).outcome = .ok (r.graph, ns)) : MapsAlone table document ns t r

theorem mapsAlone_of_describe [Library] {table : PrefixTable} {document : Json} {ns : Namespaces} {t : ResourceTemplate}
    {ds : List Description} (hns : table.bindTo .standard = .ok ns) (h : t.describe table document = .ok ds) :
    MapsAlone table document ns t (alone ds) := by
  obtain ⟨m, hm, hds⟩ := bind_eq_ok.mp h
  have htable := (Mapper.parts_of_ofTemplate hm).2
  have hinto : (m.mapInto {} 0 document).outcome = .ok (alone ds) := by
    unfold Mapper.mapInto
    rw [Traced.outcome_bind, hds]
    rfl
  refine .intro hm hinto ?_
  unfold Mapper.build
  rw [Traced.outcome_bind, Traced.outcome_lift, htable, hns]
  show ((m.mapInto {} 0 document) >>= _).outcome = _
  rw [Traced.outcome_bind, hinto]
  rfl

/-! ## The union -/

/-- The triples of an export: those of its parts, whose blank nodes are renamed by `ρ`, and the links of its relations
    between the subjects of two parts. -/
inductive InUnion (relations : List Relation) (table : PrefixTable) (parts : List (Element × Mapper.Mapped))
    (ρ : Nat → Nat → Nat) : Triple → Prop where
  | part {i : Nat} {e : Element} {r : Mapper.Mapped} {t : Triple} (hpart : parts[i]? = some (e, r))
      (ht : r.graph.holds t = true) : InUnion relations table parts ρ (t.rename (ρ i))
  | link {relation : Relation} {reference predicate : String} {i j : Nat} {e e' : Element} {r r' : Mapper.Mapped}
      {s o : Node} (hrelation : relation ∈ relations) (hreference : relation.predicate = .text reference)
      (hexpand : table.expand reference = .ok (some predicate))
      (hpart : parts[i]? = some (e, r)) (hsubject : e.id = relation.subject) (hs : s ∈ r.subjects)
      (hpart' : parts[j]? = some (e', r')) (hobject : e'.id = relation.object) (ho : o ∈ r'.subjects) :
      InUnion relations table parts ρ ⟨s.rename (ρ i), predicate, .node (o.rename (ρ j))⟩

/-- A part comes from a group of descriptions. -/
structure IsPartOf (x : String × List Description) (y : Element × Mapper.Mapped) : Prop where
  name : x.1 = y.1.id
  mapped : y.2 = alone x.2

variable {parts : List (Element × Mapper.Mapped)}

/-- The subjects of a part are known under its name. -/
theorem lookup_part (hρ : Apart groups ρ) (hparts : List.Forall₂ IsPartOf groups parts)
    (hdistinct : (groups.map (·.1)).Nodup) {i : Nat} {e : Element} {r : Mapper.Mapped}
    (hi : parts[i]? = some (e, r)) :
    Json.lookup e.id (groups.foldl Progress.add {}).subjects = some (r.subjects.map (Node.rename (ρ i))) := by
  obtain ⟨x, hx, hname, hmapped⟩ := hparts.exists_left hi
  cases hmapped
  have hnodes := hρ.nodes i
  rw [hx, Option.map_some] at hnodes
  rw [lookup_subjects hdistinct, ← hname]
  exact (Json.lookup_eq_some (nodup_emitGroups hdistinct)).mpr (List.mem_of_getElem? hnodes)

theorem mem_subjectsOf_part (hρ : Apart groups ρ) (hparts : List.Forall₂ IsPartOf groups parts)
    (hdistinct : (groups.map (·.1)).Nodup) {id : String} {s : Node} :
    s ∈ (groups.foldl Progress.add {}).subjectsOf id ↔ ∃ (i : Nat) (e : Element) (r : Mapper.Mapped) (s' : Node),
      parts[i]? = some (e, r) ∧ e.id = id ∧ s' ∈ r.subjects ∧ s = s'.rename (ρ i) := by
  constructor
  · intro h
    obtain ⟨nodes, hmem, hs⟩ := (mem_subjectsOf hdistinct).mp h
    obtain ⟨i, hi⟩ := List.getElem?_of_mem hmem
    rw [hρ.nodes] at hi
    obtain ⟨x, hx, heq⟩ := Option.map_eq_some_iff.mp hi
    cases heq
    obtain ⟨s', hs', rfl⟩ := List.mem_map.mp hs
    obtain ⟨⟨e, r⟩, hpart, hname, hmapped⟩ := hparts.exists_right hx
    cases hmapped
    exact ⟨i, e, _, s', hpart, hname.symm, hs', rfl⟩
  · intro h
    obtain ⟨i, e, r, s', hpart, hid, hs', rfl⟩ := h
    unfold Progress.subjectsOf
    rw [← hid, lookup_part hρ hparts hdistinct hpart]
    exact List.mem_map_of_mem hs'

/-- The graph of groups and relations is the union of the parts and of the links. -/
theorem holds_contents_iff {relations : List Relation} {table : PrefixTable} {ls : List (Relation × Option String)}
    (hρ : Apart groups ρ) (hparts : List.Forall₂ IsPartOf groups parts) (hdistinct : (groups.map (·.1)).Nodup)
    (hls : relations.mapM (expandRelation table) = .ok ls) (t : Triple) :
    (contents groups ls).holds t = true ↔ InUnion relations table parts ρ t := by
  have hexpanded : ∀ {relation reference predicate}, expandRelation table relation = .ok (reference, some predicate) →
      reference = relation ∧ ∃ s, relation.predicate = .text s ∧ table.expand s = .ok (some predicate) := by
    intro relation reference predicate h
    unfold expandRelation at h
    split at h
    · next s hs =>
      obtain ⟨_, hexpand, heq⟩ := map_eq_ok.mp h
      cases heq
      exact ⟨rfl, s, hs, hexpand⟩
    · cases h
  rw [holds_contents]
  constructor
  · intro h
    obtain ⟨u, hu | ⟨l, hl, hu⟩, hsame⟩ := h
    · obtain ⟨i, x, v, hx, hv, rfl⟩ := (hρ.triples u).mp hu
      obtain ⟨w, hwv, rfl⟩ := Triple.same_rename_iff.mp hsame
      obtain ⟨⟨e, r⟩, hpart, _, hmapped⟩ := hparts.exists_right hx
      cases hmapped
      exact .part hpart (holds_alone.mpr ⟨v, hv, hwv⟩)
    · obtain ⟨predicate, s, o, hpredicate, hs, ho, rfl⟩ := mem_linksOf.mp hu
      have heq := Triple.eq_of_same (Triple.same_symm hsame) rfl
      subst heq
      obtain ⟨k, hk⟩ := List.getElem?_of_mem hl
      obtain ⟨relation, hrelation, hexpand⟩ := (mapM_eq_ok.mp hls).exists_left hk
      obtain ⟨relation', found⟩ := l
      cases hpredicate
      obtain ⟨rfl, reference, hreference, hexpand⟩ := hexpanded hexpand
      obtain ⟨i, e, r, s', hi, hid, hs', rfl⟩ := (mem_subjectsOf_part hρ hparts hdistinct).mp hs
      obtain ⟨j, e', r', o', hj, hid', ho', rfl⟩ := (mem_subjectsOf_part hρ hparts hdistinct).mp ho
      exact .link (List.mem_of_getElem? hrelation) hreference hexpand hi hid hs' hj hid' ho'
  · intro h
    cases h with
    | @part i e r u hpart ht =>
      obtain ⟨x, hx, _, hmapped⟩ := hparts.exists_left hpart
      cases hmapped
      obtain ⟨v, hv, hsame⟩ := holds_alone.mp ht
      refine ⟨v.rename (ρ i), .inl ((hρ.triples _).mpr ⟨i, x, v, hx, hv, rfl⟩), ?_⟩
      exact Triple.same_rename_iff.mpr ⟨u, hsame, rfl⟩
    | @link relation reference predicate i j e e' r r' s o hrelation hreference hexpand hi hid hs hj hid' ho =>
      obtain ⟨k, hk⟩ := List.getElem?_of_mem hrelation
      obtain ⟨l, hl, hexpand'⟩ := (mapM_eq_ok.mp hls).exists_right hk
      have hl' : l = (relation, some predicate) := by
        unfold expandRelation at hexpand'
        rw [hreference] at hexpand'
        dsimp only at hexpand'
        rw [hexpand] at hexpand'
        cases hexpand'
        rfl
      subst hl'
      refine ⟨_, .inr ⟨_, List.mem_of_getElem? hl, mem_linksOf.mpr ⟨predicate, _, _, rfl, ?_, ?_, rfl⟩⟩,
        Triple.same_refl _⟩
      · exact (mem_subjectsOf_part hρ hparts hdistinct).mpr ⟨i, e, r, s, hi, hid, hs, rfl⟩
      · exact (mem_subjectsOf_part hρ hparts hdistinct).mpr ⟨j, e', r', o, hj, hid', ho, rfl⟩

/-- An element has the name, and its subjects are known under it. -/
structure Known (root : RootConfig) (p : Progress) (id : String) : Prop where
  isElement : ∃ e ∈ root.elements, e.id = id
  isMapped : ∃ nodes, Json.lookup id p.subjects = some nodes

/-- **An export is the union of its elements and its relations.** The graph of an export holds what each of its elements
    gives alone, with the blank nodes of different elements kept apart, and for every relation whose predicate expands
    the links of each subject of the one element with each of the other, and nothing else. The ends of all relations
    are elements that were mapped before. The graph is a copy of what was gathered, and it is the same graph. -/
theorem ofFiles_union [Library] (fs : Files) (encoding : String) (base : Location) (members : List (String × Json))
    (root : RootConfig) (document : Json) (g : Graph) (ns : Namespaces)
    (hread : (RootConfig.read members).outcome = .ok root)
    (h : ofFiles fs encoding base root document = .ok (g, ns)) :
    ∃ (loaded : List (Element × ResourceTemplate)) (parts : List (Element × Mapper.Mapped)) (ρ : Nat → Nat → Nat)
        (p : Progress),
      (fs.loadElements encoding base root).outcome = .ok loaded ∧ loaded.map (·.1) = root.elements ∧
      List.Forall₂ (fun x y => x.1 = y.1 ∧ MapsAlone (.ofTexts root.prefixes) document ns x.2 y.2) loaded parts ∧
      (∀ i j n n', ρ i n = ρ j n' → i = j ∧ n = n') ∧
      (∀ t, g.holds t = true ↔ InUnion root.relations (.ofTexts root.prefixes) parts ρ t) ∧
      (loaded.foldlM (mapElement (.ofTexts root.prefixes) document) {}).outcome = .ok p ∧
      (∀ (i : Nat) (e : Element) (r : Mapper.Mapped), parts[i]? = some (e, r) →
        Json.lookup e.id p.subjects = some (r.subjects.map (Node.rename (ρ i)))) ∧
      (∀ relation ∈ root.relations, Known root p relation.subject ∧ Known root p relation.object) ∧
      ∃ scratch : Progress, (root.relations.foldlM (relate (.ofTexts root.prefixes)) p).outcome = .ok scratch ∧
        g = ({} : Graph).insertAll scratch.graph.triples ∧ g = scratch.graph := by
  unfold ofFiles at h
  rw [outcome_build, outcome_graph] at h
  obtain ⟨ns', hns, h⟩ := bind_eq_ok.mp h
  obtain ⟨loaded, hloaded, h⟩ := bind_eq_ok.mp h
  obtain ⟨groups, hgroups, h⟩ := bind_eq_ok.mp h
  obtain ⟨ls, hls, h⟩ := bind_eq_ok.mp h
  cases h
  have helements := Files.elements_of_loadElements hloaded
  have hids : groups.map (·.1) = root.elements.map (·.id) := by
    rw [names_describeGroups hgroups, ← helements, List.map_map]
    rfl
  have hdistinct : (groups.map (·.1)).Nodup := by
    rw [hids]
    exact RootConfig.distinct_of_read hread
  -- every element stands with its group and with what the descriptions of that give alone
  obtain ⟨parts, hmaps, hparts⟩ := (mapM_eq_ok.mp hgroups).exists_between
    (S := fun x y => x.1 = y.1 ∧ MapsAlone (.ofTexts root.prefixes) document ns x.2 y.2) (T := IsPartOf) (by
      intro x group hgroup
      obtain ⟨ds, hds, rfl⟩ := map_eq_ok.mp hgroup
      exact ⟨(x.1, alone ds), ⟨rfl, mapsAlone_of_describe hns hds⟩, rfl, rfl⟩)
  obtain ⟨ρ, hρ⟩ := exists_apart groups
  refine ⟨loaded, parts, ρ, groups.foldl Progress.add {}, hloaded, helements, hmaps, hρ.injective,
    holds_contents_iff hρ hparts hdistinct hls, ?_, fun i e r => lookup_part hρ hparts hdistinct, ?_,
    ls.foldl Progress.link (groups.foldl Progress.add {}), ?_, (distinct_contents groups ls).copy.symm, rfl⟩
  · rw [outcome_mapElements, hgroups]
    rfl
  · have hknown : ∀ id ∈ root.elements.map (·.id), Known root (groups.foldl Progress.add {}) id := by
      intro id hid
      refine ⟨List.mem_map.mp hid, ?_⟩
      rw [← hids] at hid
      obtain ⟨x, hx, rfl⟩ := List.mem_map.mp hid
      obtain ⟨i, hi⟩ := List.getElem?_of_mem hx
      obtain ⟨⟨e, r⟩, hpart, hname, _⟩ := hparts.exists_right hi
      rw [hname]
      exact ⟨_, lookup_part hρ hparts hdistinct hpart⟩
    intro relation hrelation
    obtain ⟨hsubject, hobject⟩ := RootConfig.ends_of_read hread hrelation
    exact ⟨hknown _ hsubject, hknown _ hobject⟩
  · rw [outcome_relations, hls]
    rfl

/-- The whole and its part have one anonymous subject each, and the relation links the one with the other. -/
theorem ofFiles_union_ofPair :
    (RootConfig.read membersOfPair).outcome = .ok (ofPair [whole, part]) ∧ ∃ g ns,
      ofFiles (thingFile kindFirst) "utf-8" ⟨"", []⟩ (ofPair [whole, part]) (.object []) = .ok (g, ns) ∧
      ∃ a b, a ≠ b ∧ g.holds ⟨.blank a, "http://example.org/has", .node (.blank b)⟩ = true := by
  have hread : (RootConfig.read membersOfPair).outcome = .ok (ofPair [whole, part]) := rfl
  obtain ⟨⟨g, ns⟩, hr⟩ := exists_ofFiles_kindFirst
  obtain ⟨loaded, parts, ρ, p, hloaded, _, hmaps, hinjective, hunion, _⟩ :=
    ofFiles_union (thingFile kindFirst) "utf-8" ⟨"", []⟩ membersOfPair _ _ g ns hread hr
  cases hloaded.symm.trans loadElements_kindFirst
  -- the template gives one subject, whichever of the two elements it is loaded for
  have hnone : ofThing.findCycle = none := rfl
  have hsubjects : ∀ r, MapsAlone (.ofTexts [("e", "http://example.org/")]) (.object []) ns ofThing r →
      r.subjects = [.blank 0] := by
    intro r h
    cases h with
    | intro hmapper hinto _ =>
      rw [Mapper.ofTemplate_eq_ok hnone] at hmapper
      cases hmapper
      cases hinto
      rfl
  rcases hmaps with _ | ⟨⟨he, halone⟩, _ | ⟨⟨he', halone'⟩, _ | _⟩⟩
  have hfirst := hsubjects _ halone
  have hsecond := hsubjects _ halone'
  refine ⟨hread, g, ns, hr, ρ 0 0, ρ 1 0, ?_, ?_⟩
  · intro heq
    cases (hinjective 0 1 0 0 heq).1
  · rw [hunion]
    refine .link (i := 0) (j := 1) (s := .blank 0) (o := .blank 0) List.mem_cons_self rfl rfl rfl ?_ ?_ rfl ?_ ?_
    · exact congrArg Element.id he.symm
    · rw [hfirst]
      exact List.mem_cons_self
    · exact congrArg Element.id he'.symm
    · rw [hsecond]
      exact List.mem_cons_self

end Export

end GraphLift
