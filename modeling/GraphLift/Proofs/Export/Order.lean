import GraphLift.Export.Run
import GraphLift.Proofs.Export.Contents
import GraphLift.Proofs.Export.Reading
import GraphLift.Proofs.Template.Order
import Mathlib.Data.List.Permutation

/-! # The order of a configuration

    The order in which a configuration is written does not matter for the graph of an export: not that of elements and
    relations, nor that of properties and node templates in the files of the elements.

    * **Groups** of descriptions in another order, each like the one that it replaces, give the same graph up to a
      renaming of blank nodes (`isomorphic_contents`).
    * **Exports** (`agree_build`) both fail, or both come out well and give the same graph up to such a renaming.
    * **Files** are read to templates that differ in order only, where the files do (`Files.agree_loadElements`).
-/

namespace GraphLift

open Outcome

/-- The root configuration with its elements and its relations in another order. -/
inductive RootConfig.Reordered (root : RootConfig) : RootConfig → Prop where
  | intro {elements : List Element} {relations : List Relation} (helements : root.elements.Perm elements)
      (hrelations : root.relations.Perm relations) : Reordered root { root with elements, relations }

namespace Export

/-! ## Graphs -/

variable {groups groups' : List (String × List Description)} {σ : Equiv.Perm Nat}

/-- If the nodes of every group are renamed, so are the subjects of every element. -/
theorem mem_subjectsOf_rename (hdistinct : (groups.map (·.1)).Nodup) (hdistinct' : (groups'.map (·.1)).Nodup)
    (hnodes : ∀ id nodes, (id, nodes.map (Node.rename σ)) ∈ (emitList emitGroup 0 groups').value ↔
      (id, nodes) ∈ (emitList emitGroup 0 groups).value) (id : String) (s : Node) :
    s.rename σ ∈ (groups'.foldl Progress.add {}).subjectsOf id ↔ s ∈ (groups.foldl Progress.add {}).subjectsOf id := by
  rw [mem_subjectsOf hdistinct, mem_subjectsOf hdistinct']
  constructor
  · intro hs
    obtain ⟨nodes', hmem, hs⟩ := hs
    -- the nodes are those that the inverse renaming gives
    have hback : (nodes'.map (Node.rename σ.symm)).map (Node.rename σ) = nodes' := by
      rw [List.map_map]
      exact List.map_id'' (fun n => n.rename_symm_rename σ) nodes'
    refine ⟨nodes'.map (Node.rename σ.symm), (hnodes id _).mp (by rwa [hback]), ?_⟩
    rw [← hback] at hs
    exact (List.mem_map_of_injective (Node.rename_injective σ)).mp hs
  · intro hs
    obtain ⟨nodes, hmem, hs⟩ := hs
    exact ⟨nodes.map (Node.rename σ), (hnodes id nodes).mpr hmem, List.mem_map_of_mem hs⟩

/-- The links of a relation are renamed with the subjects of its elements. -/
theorem mem_linksOf_rename {subjects subjects' : String → List Node}
    (h : ∀ id s, s.rename σ ∈ subjects' id ↔ s ∈ subjects id) (l : Relation × Option String) (t : Triple) :
    t.rename σ ∈ linksOf subjects' l ↔ t ∈ linksOf subjects l := by
  rw [mem_linksOf, mem_linksOf]
  constructor
  · intro ht
    obtain ⟨predicate, s, o, hl, hs, ho, heq⟩ := ht
    refine ⟨predicate, s.rename σ.symm, o.rename σ.symm, hl, ?_, ?_, ?_⟩
    · rwa [← h, Node.rename_symm_rename]
    · rwa [← h, Node.rename_symm_rename]
    · rw [← Triple.rename_inj σ, heq]
      simp [Triple.rename, Term.rename]
  · intro ht
    obtain ⟨predicate, s, o, hl, hs, ho, heq⟩ := ht
    refine ⟨predicate, s.rename σ, o.rename σ, hl, (h _ _).mpr hs, (h _ _).mpr ho, ?_⟩
    rw [heq]
    rfl

/-- Groups that are like each other, in any order, and relations in any order give the same graph up to a renaming of
    blank nodes. -/
theorem isomorphic_contents (h : Rearranged GroupIsLike groups groups') (hdistinct : (groups.map (·.1)).Nodup)
    {ls ls' : List (Relation × Option String)} (hls : ls.Perm ls') :
    (contents groups ls).Isomorphic (contents groups' ls') := by
  obtain ⟨σ, htriples, hnodes⟩ := exists_renaming h
  have hdistinct' : (groups'.map (·.1)).Nodup := by
    obtain ⟨middle, hperm, hall⟩ := h
    have hnames : middle.map (·.1) = groups'.map (·.1) := hall.map_eq fun _ _ hx => hx.name
    rw [← hnames]
    exact (hperm.map _).nodup_iff.mp hdistinct
  have hsubjects := mem_subjectsOf_rename hdistinct hdistinct' hnodes
  have hgiven : ∀ u, Given groups' ls' (u.rename σ) ↔ Given groups ls u := by
    intro u
    refine or_congr (htriples u) (exists_congr fun l => and_congr hls.symm.mem_iff ?_)
    exact mem_linksOf_rename hsubjects l u
  refine ⟨σ, ?_⟩
  intro t
  rw [Bool.eq_iff_iff, holds_contents, holds_contents]
  -- a triple that says the same is renamed along
  constructor
  · intro h
    obtain ⟨u, hu, hsame⟩ := h
    refine ⟨u.rename σ.symm, ?_, ?_⟩
    · rwa [← hgiven, Triple.rename_symm_rename]
    · rwa [← Triple.same_rename σ, Triple.rename_symm_rename]
  · intro h
    obtain ⟨u, hu, hsame⟩ := h
    refine ⟨u.rename σ, (hgiven u).mpr hu, ?_⟩
    rwa [Triple.same_rename]

/-! ## Exports -/

/-- The same elements with templates that differ in order only, in any order. -/
abbrev LoadedReordered (elements elements' : List (Element × ResourceTemplate)) : Prop :=
  Rearranged (fun x y => x.1 = y.1 ∧ x.2.Reordered y.2) elements elements'

variable [Library]

/-- Exports agree if their templates do. -/
theorem agree_build {root root' : RootConfig} (h : root.Reordered root') (hids : (root.elements.map (·.id)).Nodup)
    {load load' : Traced (List (Element × ResourceTemplate))}
    (hload : Agree LoadedReordered load.outcome load'.outcome)
    (helements : ∀ loaded, load.outcome = .ok loaded → loaded.map (·.1) = root.elements) (document : Json) :
    Agree (fun r r' => r.1.Isomorphic r'.1 ∧ r.2 = r'.2) (build root load document).outcome
      (build root' load' document).outcome := by
  rw [outcome_build, outcome_build, outcome_graph, outcome_graph]
  cases h with
  | intro _ hrelations =>
    refine Agree.bind_same fun ns _ => (hload.and_left helements).bind fun loaded loaded' hloaded => ?_
    have hgroups : Agree (Rearranged GroupIsLike)
        (loaded.mapM (describeGroup (.ofTexts root.prefixes) document))
        (loaded'.mapM (describeGroup (.ofTexts root.prefixes) document)) := by
      refine agree_mapM_rearranged hloaded.1 ?_
      intro x y hxy
      refine (hxy.2.agree_describe _ document).map fun ds ds' hds => ?_
      exact ⟨congrArg Element.id hxy.1, hds⟩
    -- groups have the names of the elements, which differ
    have hnames : ∀ groups, loaded.mapM (describeGroup (.ofTexts root.prefixes) document) = .ok groups →
        (groups.map (·.1)).Nodup := by
      intro groups hmap
      rw [names_describeGroups hmap, show loaded.map (·.1.id) = (loaded.map (·.1)).map (·.id) by simp, hloaded.2]
      exact hids
    refine (hgroups.and_left hnames).bind fun groups groups' hg => ?_
    exact (agree_mapM_perm hrelations).bind fun ls ls' hls => .ok ⟨isomorphic_contents hg.1 hg.2 hls, rfl⟩

end Export

/-! ## Files -/

namespace Files

variable [Library] {fs fs' : Files} {encoding : String} {base : Location}

theorem readMembers_of_readJson {l : Location} {members : List (String × Json)}
    (h : fs.readJson encoding l = .ok (.object members)) : fs.readMembers encoding l = .ok members := by
  unfold readMembers
  rw [h]

/-- No object that is read from a file has a name twice. -/
theorem distinct_of_readMembers {l : Location} {members : List (String × Json)}
    (h : fs.readMembers encoding l = .ok members) : Json.Distinct (.object members) := by
  unfold readMembers at h
  split at h
  · next members' hjson =>
    cases h
    obtain ⟨text, _, hjson⟩ := bind_eq_ok.mp hjson
    cases hparse : Json.parse text with
    | error e =>
      rw [hparse] at hjson
      cases hjson
    | ok v =>
      rw [hparse] at hjson
      cases hjson
      exact Json.parse_distinct hparse
  all_goals cases h

/-- Templates agree if the files that they are read from do. -/
theorem agree_loadTemplate {l : Location}
    (h : Agree Template.MembersReordered (fs.readMembers encoding l) (fs'.readMembers encoding l)) (outside : Json) :
    Agree ResourceTemplate.Reordered (fs.loadTemplate encoding l outside).outcome
      (fs'.loadTemplate encoding l outside).outcome := by
  unfold loadTemplate
  simp only [Traced.outcome_bind, Traced.outcome_lift]
  refine (h.and_left fun members => distinct_of_readMembers).bind fun members members' hmembers => ?_
  exact Template.agree_read hmembers.1 hmembers.2 outside

theorem outcome_loadElements (root : RootConfig) :
    (fs.loadElements encoding base root).outcome = root.elements.mapM fun e =>
      (fs.loadTemplate encoding (base.join (Location.parse e.file)) e.typeRef).outcome.map fun t => (e, t) := by
  unfold loadElements
  rw [Traced.outcome_mapM]
  congr 1
  funext e
  rw [Traced.outcome_bind]
  cases (fs.loadTemplate encoding (base.join (Location.parse e.file)) e.typeRef).outcome <;> rfl

/-- Elements are loaded with their own names, types and files. -/
theorem elements_of_loadElements {root : RootConfig} {loaded : List (Element × ResourceTemplate)}
    (h : (fs.loadElements encoding base root).outcome = .ok loaded) : loaded.map (·.1) = root.elements := by
  rw [outcome_loadElements] at h
  have hsame : root.elements.map id = loaded.map (·.1) := by
    refine (mapM_eq_ok.mp h).map_eq fun e x hx => ?_
    obtain ⟨t, _, hx⟩ := map_eq_ok.mp hx
    rw [← hx]
    rfl
  rw [← hsame, List.map_id]

theorem agree_loadElements {root root' : RootConfig} (h : root.Reordered root')
    (hfiles : ∀ e ∈ root.elements, Agree Template.MembersReordered
      (fs.readMembers encoding (base.join (Location.parse e.file)))
      (fs'.readMembers encoding (base.join (Location.parse e.file)))) :
    Agree Export.LoadedReordered (fs.loadElements encoding base root).outcome
      (fs'.loadElements encoding base root').outcome := by
  cases h with
  | intro helements _ =>
    rw [outcome_loadElements, outcome_loadElements]
    -- the elements are kept among those of the root configuration, whose files are known to agree
    have hsame : Rearranged (fun e e' : Element => e = e' ∧ e ∈ root.elements) root.elements _ :=
      .of_perm (fun e he => ⟨rfl, helements.mem_iff.mpr he⟩) helements
    refine agree_mapM_rearranged hsame ?_
    intro e e' he
    obtain ⟨heq, hmem⟩ := he
    subst heq
    exact (agree_loadTemplate (hfiles e hmem) e.typeRef).map fun t t' ht => ⟨rfl, ht⟩

end Files

namespace Export

/-- The graph of an export whose templates are in files, with the namespaces of its prefix table. -/
def ofFiles [Library] (fs : Files) (encoding : String) (base : Location) (root : RootConfig) (document : Json) :
    Except Failure (Graph × Namespaces) :=
  (build root (fs.loadElements encoding base root) document).outcome

/-! ## A whole and its part -/

/-- A root configuration with two elements and a relation between them, as it is written. -/
def membersOfPair : List (String × Json) := [
  ("prefixes", .object [("e", .text "http://example.org/")]),
  ("elements", .array [
    .object [("id", .text "whole"), ("file", .text "thing")],
    .object [("id", .text "part"), ("file", .text "thing")]]),
  ("relations", .array [
    .object [("subject", .text "whole"), ("predicate", .text "e:has"), ("object", .text "part")]])]

def whole : Element := ⟨"whole", .null, "thing"⟩

def part : Element := ⟨"part", .null, "thing"⟩

/-- The root configuration as it is read, with its elements in some order. -/
def ofPair (elements : List Element) : RootConfig where
  trace := false
  prefixes := [("e", "http://example.org/")]
  elements
  relations := [⟨"whole", .text "e:has", "part"⟩]
  formats := {}

def kindEntry : String × Json := ("k", .object [("predicate", .text "e:k"), ("const", .text "K")])

def nameEntry : String × Json := ("n", .object [("predicate", .text "e:n"), ("const", .text "N")])

/-- The text of a template with two properties. -/
def templateText (first second : String) : String :=
  "\x7b\"props\":\x7b" ++ first ++ "," ++ second ++ "\x7d\x7d"

def kindText : String := "\"k\":\x7b\"predicate\":\"e:k\",\"const\":\"K\"\x7d"

def nameText : String := "\"n\":\x7b\"predicate\":\"e:n\",\"const\":\"N\"\x7d"

def kindFirst : String := templateText kindText nameText

def nameFirst : String := templateText nameText kindText

/-- The template that is read from either of them, up to its order. -/
def ofThing : ResourceTemplate where
  properties := [
    ("k", { predicate := "e:k", const := some "K" }),
    ("n", { predicate := "e:n", const := some "N" })]

/-- The bytes of a text of seven-bit characters. -/
def asciiBytes (s : String) : List UInt8 := s.toList.map fun c => c.toNat.toUInt8

/-- The file of both elements. -/
def thingFile (template : String) : Files := ⟨[], [(["thing"], .file (asciiBytes template))]⟩

theorem place_thing : (⟨"", []⟩ : Location).join (Location.parse "thing") = ⟨"", ["thing"]⟩ := by decide

/-- A file whose bytes decode to a JSON text is read as the value of that text. -/
theorem readJson_of_ascii {fs : Files} {l : Location} {text : String} {v : Json}
    (hbytes : fs.readBytes l = .ok (asciiBytes text))
    (hdecode : Text.Encoding.utf8.decode.read (asciiBytes text) = .ok text) (hparse : Json.parse text = .ok v) :
    fs.readJson "utf-8" l = .ok v := by
  have hcodec : Library.codec? "utf-8" = some Text.Encoding.utf8.decode :=
    congrArg (Option.map (·.decode)) (by decide : Text.Encoding.named? "utf-8" = some .utf8)
  have htext : fs.readText "utf-8" l = .ok text := by
    unfold Files.readText
    rw [hbytes, hcodec]
    show (Text.Encoding.utf8.decode.read (asciiBytes text)).mapError _ = _
    rw [hdecode]
    rfl
  unfold Files.readJson
  rw [htext]
  show (Json.parse text).mapError _ = _
  rw [hparse]
  rfl

theorem readMembers_thingFile {template : String} {members : List (String × Json)}
    (hdecode : Text.Encoding.utf8.decode.read (asciiBytes template) = .ok template)
    (hparse : Json.parse template = .ok (.object members)) :
    (thingFile template).readMembers "utf-8" ⟨"", ["thing"]⟩ = .ok members := by
  have hjson : (thingFile template).readJson "utf-8" ⟨"", ["thing"]⟩ = .ok (.object members) :=
    readJson_of_ascii rfl hdecode hparse
  exact Files.readMembers_of_readJson hjson

theorem readMembers_kindFirst :
    (thingFile kindFirst).readMembers "utf-8" ⟨"", ["thing"]⟩ = .ok [("props", .object [kindEntry, nameEntry])] :=
  readMembers_thingFile rfl (by cbv)

theorem readMembers_nameFirst :
    (thingFile nameFirst).readMembers "utf-8" ⟨"", ["thing"]⟩ = .ok [("props", .object [nameEntry, kindEntry])] :=
  readMembers_thingFile rfl (by cbv)

theorem loadElements_kindFirst :
    ((thingFile kindFirst).loadElements "utf-8" ⟨"", []⟩ (ofPair [whole, part])).outcome =
      .ok [(whole, ofThing), (part, ofThing)] := by
  have hthing : ((thingFile kindFirst).loadTemplate "utf-8" ⟨"", ["thing"]⟩ .null).outcome = .ok ofThing := by
    unfold Files.loadTemplate
    rw [Traced.outcome_bind, Traced.outcome_lift, readMembers_kindFirst]
    rfl
  rw [Files.outcome_loadElements]
  show [whole, part].mapM _ = _
  simp only [List.mapM_cons, List.mapM_nil, whole, part, place_thing, hthing]
  rfl

theorem exists_ofFiles_kindFirst :
    ∃ r, ofFiles (thingFile kindFirst) "utf-8" ⟨"", []⟩ (ofPair [whole, part]) (.object []) = .ok r := by
  show ∃ r, (graph (ofPair [whole, part]) _ (.object [])).outcome = .ok r
  rw [outcome_graph, loadElements_kindFirst]
  exact ⟨_, rfl⟩

/-! ## Exports from files -/

/-- **The order of a configuration does not matter.** Reorder the elements and the relations of a root configuration
    that was read, and in the files of its elements the properties, the node templates and the properties of those:
    then the export comes out well if it did before, and its graph is the same up to a renaming of blank nodes. -/
theorem ofFiles_reordered [Library] (fs fs' : Files) (encoding : String) (base : Location) (members : List (String × Json))
    (root root' : RootConfig) (document : Json) (hread : (RootConfig.read members).outcome = .ok root)
    (hroot : root.Reordered root')
    (hfiles : ∀ e ∈ root.elements, Agree Template.MembersReordered
      (fs.readMembers encoding (base.join (Location.parse e.file)))
      (fs'.readMembers encoding (base.join (Location.parse e.file)))) :
    ((∃ r, ofFiles fs encoding base root document = .ok r) ↔
        ∃ r', ofFiles fs' encoding base root' document = .ok r') ∧
      (∀ g ns g' ns', ofFiles fs encoding base root document = .ok (g, ns) →
        ofFiles fs' encoding base root' document = .ok (g', ns') → g.Isomorphic g' ∧ ns = ns') := by
  have hagree : Agree (fun r r' => r.1.Isomorphic r'.1 ∧ r.2 = r'.2) (ofFiles fs encoding base root document)
      (ofFiles fs' encoding base root' document) :=
    agree_build hroot (RootConfig.distinct_of_read hread) (Files.agree_loadElements hroot hfiles)
      (fun _ => Files.elements_of_loadElements) document
  refine ⟨hagree.succeeds_iff, ?_⟩
  intro g ns g' ns' hg hg'
  rw [hg, hg'] at hagree
  exact hagree.rel

theorem ofFiles_reordered_ofPair :
    ∃ r r', ofFiles (thingFile kindFirst) "utf-8" ⟨"", []⟩ (ofPair [whole, part]) (.object []) = .ok r ∧
      ofFiles (thingFile nameFirst) "utf-8" ⟨"", []⟩ (ofPair [part, whole]) (.object []) = .ok r' ∧
      r.1.Isomorphic r'.1 ∧ r.2 = r'.2 := by
  have hread : (RootConfig.read membersOfPair).outcome = .ok (ofPair [whole, part]) := rfl
  have hroot : (ofPair [whole, part]).Reordered (ofPair [part, whole]) := .intro (.swap part whole []) (.refl _)
  have hmembers : Template.MembersReordered [("props", .object [kindEntry, nameEntry])]
      [("props", .object [nameEntry, kindEntry])] := by
    refine ⟨?_, .object (.swap nameEntry kindEntry []), .same _⟩
    intro name hprops _
    rw [Json.lookup_cons, Json.lookup_cons, if_neg hprops.symm, if_neg hprops.symm]
  have hfiles : ∀ e ∈ (ofPair [whole, part]).elements, Agree Template.MembersReordered
      ((thingFile kindFirst).readMembers "utf-8" (Location.join ⟨"", []⟩ (Location.parse e.file)))
      ((thingFile nameFirst).readMembers "utf-8" (Location.join ⟨"", []⟩ (Location.parse e.file))) := by
    intro e he
    have hfile : e.file = "thing" := by
      simp only [ofPair, List.mem_cons, List.not_mem_nil, or_false] at he
      rcases he with rfl | rfl
      · rfl
      · rfl
    rw [hfile, place_thing, readMembers_kindFirst, readMembers_nameFirst]
    exact .ok hmembers
  obtain ⟨hsucceeds, hsame⟩ := ofFiles_reordered (thingFile kindFirst) (thingFile nameFirst) "utf-8" ⟨"", []⟩
    membersOfPair _ _ (.object []) hread hroot hfiles
  obtain ⟨r, hr⟩ := exists_ofFiles_kindFirst
  obtain ⟨r', hr'⟩ := hsucceeds.mp ⟨r, hr⟩
  exact ⟨r, r', hr, hr', hsame _ _ _ _ hr hr'⟩

end Export

end GraphLift
