import GraphLift.Proofs.CommandLine.Session
import GraphLift.Proofs.Export.Order
import GraphLift.Proofs.Export.Terms
import GraphLift.Proofs.Format
import GraphLift.Proofs.Mapping.Failures
import GraphLift.Proofs.Template.WellFormed

/-! # Which input the command line answers for

    A command finishes, or its failure is reported as a fault of the input, as long as what it reads is of the kinds that
    are reckoned with. It is broken off only where nothing checks them.

    * **The library** is relied on for decoding and writing (`Library.Reliable`), as the one of the program can be
      (`Library.reliable_builtin`).
    * **Parts of a run** each fail in reported ways only, under a condition on what they read: templates whose paths are tame
      (`ResourceTemplate.IsTame`), sound prefix tables, and foreseen root configurations.
    * **Formats** admit the graph of a run if they admit what its input supplies (`ExportRequest.Foreseen.admits`,
      `MapRequest.Foreseen.admits`).
    * **Commands** (`CommandLine.Command.Foreseen`) put these conditions together, on what is in the files.
    * **The command line** (`CommandLine.run_contained`) has an exit code then. It has none for a root configuration in which
      a list stands for the end of a relation (`CommandLine.run_ofListedEnd`).
-/

namespace GraphLift

open Outcome CommandLine

/-- All that the run can fail with is reported as a fault of the input. -/
abbrev Outcome.FailsReported {α : Type} (x : Except Failure α) : Prop :=
  FailsOnly (fun e => isReported e = true) x

theorem Outcome.failsReported_mapError {ε α : Type} {f : ε → Failure} (h : ∀ e, isReported (f e) = true)
    (x : Except ε α) : FailsReported (x.mapError f) :=
  failsOnly_mapError h x

/-! ## The library -/

/-- What a run relies on: the default encoding is known, and what a format admits is written, or it is refused in a way that
    is reported. -/
structure Library.Reliable [Library] : Prop where
  decodes : (Library.codec? "utf-8").isSome = true
  writes : ∀ (format : Format) (g : Graph) (ns : Namespaces), format.Admits g.Uses ns.Binds →
    FailsReported (Library.write format g ns)

/-- The library of the program is one to rely on. -/
theorem Library.reliable_builtin : Library.Reliable where
  decodes := by decide
  writes _ _ _ hadmits := by
    refine (Format.failsOnly_write hadmits).imp fun e he => ?_
    obtain ⟨cause, rfl⟩ := he
    rfl

section

variable [Library]

/-! ## Mapping -/

/-- From whatever node the path is followed, it fails in reported ways only. -/
def Finder.IsTame (path : String) : Prop :=
  ∀ p, Library.path? (followed path) = some p → ∀ v, FailsReported ((Library.select p v).mapError LibraryError.failure)

theorem Finder.failsReported_nodes {path : String} (h : IsTame path) (f : Finder) :
    FailsReported (f.nodes (Text.trim path)) := by
  have htext := f.target_trim path
  unfold nodes
  generalize f.target (Text.trim path) = target at htext
  obtain ⟨start, text⟩ := target
  dsimp only at htext ⊢
  subst htext
  -- where the path starts does not matter, since it is tame from every node
  cases hp : Library.path? (followed path) with
  | none => exact failsOnly_error rfl
  | some p => exact h p hp start

/-- All paths of a template are tame. -/
def ResourceTemplate.IsTame (t : ResourceTemplate) : Prop :=
  ∀ path ∈ t.scopePath.toList ++ t.paths, Finder.IsTame path

variable {t : ResourceTemplate} {table : PrefixTable}

/-- With a sound table and a type that is a text, a template whose paths are tame goes wrong in reported ways only. -/
theorem ResourceTemplate.IsTame.confines (h : t.IsTame) (htable : table.IsSound)
    (htype : Reference.Textual t.typeRef) : t.Confines table fun e => isReported e = true where
  value _ := rfl
  expand r := by
    obtain ⟨iri, hiri⟩ := PrefixTable.succeeds_expand_of_texts htable.namespaces r
    rw [hiri]
    exact failsOnly_ok _
  type v hv := absurd hv (htype v)
  scope path hpath _ f :=
    f.failsReported_nodes (h path (List.mem_append_left _ (Option.mem_toList.mpr hpath)))
  lookups f path hpath :=
    Finder.failsOnly_values fun _ => f.failsReported_nodes (h path (List.mem_append_right _ hpath))

theorem Mapper.failsReported_describe {m : Mapper} (h : m.template.Confines m.table fun e => isReported e = true)
    (document : Json) : FailsReported (m.describe document).outcome := by
  refine (failsOnly_describe h document).imp fun e he => ?_
  rcases he with rfl | he | ⟨chain, id, rfl, _⟩
  · rfl
  · exact he
  · rfl

omit [Library] in
theorem Mapper.failsReported_ofTemplate (t : ResourceTemplate) (table : PrefixTable) :
    FailsReported (ofTemplate t table) := by
  unfold ofTemplate
  split
  · exact failsOnly_ok _
  · exact failsOnly_error rfl

theorem ResourceTemplate.failsReported_describe (h : t.Confines table fun e => isReported e = true) (document : Json) :
    FailsReported (t.describe table document) := by
  refine (Mapper.failsReported_ofTemplate t table).bind fun m hm => ?_
  obtain ⟨rfl, rfl⟩ := Mapper.parts_of_ofTemplate hm
  exact Mapper.failsReported_describe h document

theorem Mapper.failsReported_build {m : Mapper} (htable : m.table.IsSound)
    (h : m.template.Confines m.table fun e => isReported e = true) (document : Json) :
    FailsReported (m.build document).outcome := by
  obtain ⟨ns, hns⟩ := htable.succeeds_bindTo .standard
  simp only [build, mapInto, Traced.outcome_bind, Traced.outcome_lift, hns]
  exact ((failsReported_describe h document).bind fun ds _ => failsOnly_ok _).bind fun r _ => failsOnly_ok _

/-! ## Files -/

namespace Files

variable (fs : Files)

section

variable (hlibrary : Library.Reliable)

include hlibrary

theorem failsReported_readJson (l : Location) : FailsReported (fs.readJson "utf-8" l) := by
  have hbytes : FailsReported (fs.readBytes l) := by
    unfold readBytes
    split
    · exact failsOnly_error rfl
    · split
      · exact failsOnly_ok _
      · exact failsOnly_error rfl
      · exact failsOnly_error rfl
  have htext : FailsReported (fs.readText "utf-8" l) := by
    obtain ⟨codec, hcodec⟩ := Option.isSome_iff_exists.mp hlibrary.decodes
    refine hbytes.bind fun bytes _ => ?_
    rw [hcodec]
    exact failsReported_mapError (fun _ => rfl) _
  refine htext.bind fun text _ => failsReported_mapError (fun e => ?_) _
  unfold Failure.ofJson
  split
  · rfl
  · rfl

theorem failsReported_readMembers (l : Location) : FailsReported (fs.readMembers "utf-8" l) := by
  have hjson := fs.failsReported_readJson hlibrary l
  unfold readMembers
  split
  · exact failsOnly_ok _
  · exact failsOnly_error rfl
  · exact failsOnly_error rfl
  · exact failsOnly_error rfl
  · next e _ _ he => exact failsOnly_error (hjson e he)

theorem failsReported_loadTemplate (l : Location) (outside : Json) :
    FailsReported (fs.loadTemplate "utf-8" l outside).outcome := by
  unfold loadTemplate
  rw [Traced.outcome_bind, Traced.outcome_lift]
  refine (fs.failsReported_readMembers hlibrary l).bind fun members _ => ?_
  rw [Template.outcome_read]
  refine (failsReported_mapError (fun _ => rfl) _).bind fun t _ => ?_
  split
  · exact failsOnly_ok _
  · exact failsOnly_error rfl

end

/-- The type of a template in a file is a text, if the one from outside is a text whenever it counts as something. -/
theorem textual_of_loadTemplate {encoding : String} {l : Location} {outside : Json}
    (houtside : outside.isTruthy = true → ∃ s, outside = .text s)
    (h : (fs.loadTemplate encoding l outside).outcome = .ok t) : Reference.Textual t.typeRef := by
  unfold loadTemplate at h
  rw [Traced.outcome_bind, Traced.outcome_lift] at h
  obtain ⟨members, _, h⟩ := bind_eq_ok.mp h
  exact Template.textual_of_truthy houtside (Template.read_eq_ok h).1

omit [Library] in
theorem failsReported_deliver (out : Option String) (format : String) (d : Document) :
    FailsReported (fs.deliver out format d).outcome := by
  cases out with
  | none => exact failsOnly_ok _
  | some name =>
    have hroom : FailsReported (fs.makeRoom (Location.parse name)) := by
      unfold makeRoom
      split
      · exact failsOnly_error rfl
      · exact failsReported_mapError (fun _ => rfl) _
    have hfill : ∀ made : Files, FailsReported (made.fill (Location.parse name) d.text) := by
      intro made
      unfold fill
      split
      · exact failsOnly_error rfl
      · exact failsReported_mapError (fun _ => rfl) _
    unfold deliver
    simp only [Traced.outcome_bind, Traced.outcome_lift]
    rw [save_eq]
    exact (hroom.bind fun made _ => hfill made).bind fun _ _ => failsOnly_ok _

omit [Library] in
/-- What is delivered is the document. -/
theorem document_of_deliver {out : Option String} {format : String} {d : Document} {p : Product}
    (h : (fs.deliver out format d).outcome = .ok p) : p.document = d := by
  cases out with
  | none =>
    cases h
    rfl
  | some name =>
    simp only [deliver, Traced.outcome_bind, Traced.outcome_lift, bind_eq_ok] at h
    obtain ⟨after, _, _, _, h⟩ := h
    cases h
    rfl

end Files

/-! ## Exports -/

/-- The graph of an export is built or the failure is reported, if its prefixes can be bound, its templates have tame paths
    and texts for types, and the predicates of its relations are texts. -/
theorem Export.failsReported_build {root : RootConfig} {load : Traced (List (Element × ResourceTemplate))}
    (hprefixes : ∀ p ∈ root.prefixes, ' ' ∉ p.1.toList) (hload : FailsReported load.outcome)
    (htemplates : ∀ loaded, load.outcome = .ok loaded → ∀ x ∈ loaded,
      x.2.IsTame ∧ Reference.Textual x.2.typeRef)
    (hpredicates : ∀ r ∈ root.relations, ∃ s, r.predicate = .text s) (document : Json) :
    FailsReported (build root load document).outcome := by
  have hsound := PrefixTable.isSound_ofTexts hprefixes
  obtain ⟨ns, hns⟩ := hsound.succeeds_bindTo .standard
  rw [outcome_build, outcome_graph, hns]
  -- the templates are loaded after the prefixes are bound, and the relations come last
  refine hload.bind fun loaded hloaded => ?_
  refine (failsOnly_mapM fun x hx => ?_).bind fun groups _ => ?_
  · obtain ⟨hpaths, htype⟩ := htemplates loaded hloaded x hx
    exact (ResourceTemplate.failsReported_describe (hpaths.confines hsound htype) document).map
  · refine (failsOnly_mapM fun r hr => ?_).bind fun ls _ => failsOnly_ok _
    obtain ⟨s, hs⟩ := hpredicates r hr
    obtain ⟨iri, hiri⟩ := PrefixTable.succeeds_expand root.prefixes s
    unfold expandRelation
    rw [hs]
    dsimp only
    rw [hiri]
    exact failsOnly_ok _

/-- The graph of an export, before it is written. -/
def Files.exportGraph (fs : Files) (env : Environment) (r : ExportRequest) : Traced (Graph × Namespaces) := do
  let (root, base) ← fs.loadRoot env r.encoding r.config
  if !root.formats.isAvailable r.format then throw (.config (.formatDisabled r.format))
  let document ← Traced.lift (fs.readJson r.encoding (Location.parse r.document))
  Export.build root (fs.loadElements r.encoding base root) document

theorem Files.exportGraph_bind (fs : Files) (env : Environment) (r : ExportRequest) :
    fs.composeExport env r = fs.exportGraph env r >>= fun g => Traced.lift (compose r.format g) := by
  unfold composeExport exportGraph
  rw [bind_assoc]
  congr 1
  funext x
  obtain ⟨root, base⟩ := x
  dsimp only
  split
  · rfl
  · simp only [bind_assoc]

/-- What an export reads: its root configuration with the templates of the elements, and its document. -/
structure ExportRequest.Reads (r : ExportRequest) (env : Environment) (fs : Files) (root : RootConfig)
    (loaded : List (Element × ResourceTemplate)) (document : Json) : Prop where
  root : ∃ base, (fs.loadRoot env r.encoding r.config).outcome = .ok (root, base) ∧
    (fs.loadElements r.encoding base root).outcome = .ok loaded
  document : fs.readJson r.encoding (Location.parse r.document) = .ok document

/-- Where nothing checks what an export reads, it is of the kinds that are reckoned with. -/
structure ExportRequest.Foreseen (r : ExportRequest) (env : Environment) (fs : Files) : Prop where
  /-- If the root configuration is in somebody's home directory, that is known. -/
  home : ∀ name user rest, Files.configName env r.config = .ok name →
    (Location.parse name).tilde? = some (user, rest) → (env.homes.find? (·.1 == user)).isSome = true
  root : ∀ name l members, Files.configName env r.config = .ok name →
    Files.expandHome env (Location.parse name) = .ok l → fs.readMembers r.encoding l = .ok members →
    RootConfig.Foreseen members
  templates : ∀ root base, (fs.loadRoot env r.encoding r.config).outcome = .ok (root, base) → ∀ e ∈ root.elements, ∀ t,
    (fs.loadTemplate r.encoding (base.join (Location.parse e.file)) e.typeRef).outcome = .ok t → t.IsTame
  /-- The format admits the terms that elements and relations supply, and the prefixes that the table takes. -/
  written : ∀ format root loaded document, Format.named? r.format = some format →
    r.Reads env fs root loaded document →
    format.Admits (Export.Supplies root loaded document) (PrefixTable.ofTexts root.prefixes).MayBind

namespace ExportRequest.Foreseen

variable {r : ExportRequest} {env : Environment} {fs : Files}

theorem failsReported_expandHome (h : r.Foreseen env fs) {name : String}
    (hname : Files.configName env r.config = .ok name) : FailsReported (Files.expandHome env (Location.parse name)) := by
  unfold Files.expandHome
  split
  · exact failsOnly_ok _
  · next user rest htilde =>
    obtain ⟨home, hhome⟩ := Option.isSome_iff_exists.mp (h.home name user rest hname htilde)
    rw [hhome]
    exact failsOnly_ok _

theorem failsReported_loadRoot (hlibrary : Library.Reliable) (h : r.Foreseen env fs) (hencoding : r.encoding = "utf-8") :
    FailsReported (fs.loadRoot env r.encoding r.config).outcome := by
  unfold Files.loadRoot
  simp only [Traced.outcome_bind, Traced.outcome_lift]
  refine FailsOnly.bind ?_ fun name hname => ?_
  · unfold Files.configName
    split
    · exact failsOnly_ok _
    · dsimp only
      split
      · exact failsOnly_error rfl
      · exact failsOnly_ok _
  · refine (h.failsReported_expandHome hname).bind fun l hl => ?_
    refine (hencoding ▸ fs.failsReported_readMembers hlibrary l).bind fun members hmembers => ?_
    refine FailsOnly.bind ?_ fun root _ => failsOnly_ok _
    refine (RootConfig.failsOnly_read (h.root name l members hname hl hmembers)).imp fun e he => ?_
    obtain ⟨cause, rfl⟩ := he
    rfl

/-- A root configuration that is loaded was read from members that are foreseen. -/
theorem exists_of_loadRoot (h : r.Foreseen env fs) {root : RootConfig} {base : Location}
    (hroot : (fs.loadRoot env r.encoding r.config).outcome = .ok (root, base)) :
    ∃ members, RootConfig.Foreseen members ∧ (RootConfig.read members).outcome = .ok root := by
  unfold Files.loadRoot at hroot
  simp only [Traced.outcome_bind, Traced.outcome_lift, bind_eq_ok] at hroot
  obtain ⟨name, hname, l, hl, members, hmembers, root', hread, hpair⟩ := hroot
  cases hpair
  exact ⟨members, h.root name l members hname hl hmembers, hread⟩

theorem failsReported_exportGraph (hlibrary : Library.Reliable) (h : r.Foreseen env fs)
    (hencoding : r.encoding = "utf-8") : FailsReported (fs.exportGraph env r).outcome := by
  unfold Files.exportGraph
  rw [Traced.outcome_bind]
  refine (h.failsReported_loadRoot hlibrary hencoding).bind fun x hx => ?_
  obtain ⟨root, base⟩ := x
  obtain ⟨members, hforeseen, hread⟩ := h.exists_of_loadRoot hx
  dsimp only
  split
  · exact failsOnly_error rfl
  · simp only [Traced.outcome_bind, Traced.outcome_lift]
    refine (hencoding ▸ fs.failsReported_readJson hlibrary _).bind fun document _ => ?_
    refine Export.failsReported_build (hforeseen.prefixes_of_read hread) ?_ ?_ (hforeseen.predicates_of_read hread) document
    · rw [Files.outcome_loadElements, hencoding]
      exact failsOnly_mapM fun e _ => (fs.failsReported_loadTemplate hlibrary _ _).map
    · intro loaded hloaded y hy
      rw [Files.outcome_loadElements] at hloaded
      obtain ⟨i, hi⟩ := List.getElem?_of_mem hy
      obtain ⟨e, he, hy⟩ := (mapM_eq_ok.mp hloaded).exists_left hi
      -- the type is that of the template, or the one that its element gives
      obtain ⟨t, ht, rfl⟩ := map_eq_ok.mp hy
      have hmem := List.mem_of_getElem? he
      exact ⟨h.templates root base hx e hmem t ht,
        fs.textual_of_loadTemplate (hforeseen.types_of_read hread e hmem) ht⟩

/-- The format admits the graph of the export. -/
theorem admits (h : r.Foreseen env fs) {g : Graph} {ns : Namespaces}
    (hgraph : (fs.exportGraph env r).outcome = .ok (g, ns)) {format : Format}
    (hformat : Format.named? r.format = some format) : format.Admits g.Uses ns.Binds := by
  unfold Files.exportGraph at hgraph
  rw [Traced.outcome_bind] at hgraph
  obtain ⟨⟨root, base⟩, hroot, hgraph⟩ := bind_eq_ok.mp hgraph
  dsimp only at hgraph
  split at hgraph
  · cases hgraph
  · simp only [Traced.outcome_bind, Traced.outcome_lift] at hgraph
    obtain ⟨document, hdocument, hbuild⟩ := bind_eq_ok.mp hgraph
    obtain ⟨loaded, hloaded, hns⟩ := Export.parts_of_build hbuild
    have hreads : r.Reads env fs root loaded document := ⟨⟨base, hroot, hloaded⟩, hdocument⟩
    refine (h.written format root loaded document hformat hreads).mono ?_ ?_
    · exact fun x hx => Export.uses_of_build hloaded hbuild hx
    · exact fun name iri hbinds => PrefixTable.mayBind_of_bindTo hns hbinds

end ExportRequest.Foreseen

/-! ## Map runs -/

/-- The graph of a map run, before it is written. -/
def Files.mapGraph (fs : Files) (r : MapRequest) : Traced (Graph × Namespaces) := do
  let prefixes ← Traced.lift (fs.loadPrefixes r.encoding r.prefixes)
  let t ← fs.loadTemplate r.encoding (Location.parse r.template) .null
  let table ← Traced.lift (PrefixTable.ofJson prefixes)
  let m ← Traced.lift (Mapper.ofTemplate t table)
  let document ← Traced.lift (fs.readJson r.encoding (Location.parse r.document))
  m.build document

theorem Files.mapGraph_bind (fs : Files) (r : MapRequest) :
    fs.composeMap r = fs.mapGraph r >>= fun g => Traced.lift (compose r.format g) := by
  unfold composeMap mapGraph
  simp only [bind_assoc]

/-- What a map run reads: a mapper, from its template and its prefixes, and its document. -/
structure MapRequest.Reads (r : MapRequest) (fs : Files) (m : Mapper) (document : Json) : Prop where
  prefixes : ∃ v, fs.loadPrefixes r.encoding r.prefixes = .ok v ∧ PrefixTable.ofJson v = .ok m.table
  template : (fs.loadTemplate r.encoding (Location.parse r.template) .null).outcome = .ok m.template
  document : fs.readJson r.encoding (Location.parse r.document) = .ok document

/-- Where nothing checks what a map run reads, it is of the kinds that are reckoned with. -/
structure MapRequest.Foreseen (r : MapRequest) (fs : Files) : Prop where
  prefixes : ∀ v, fs.loadPrefixes r.encoding r.prefixes = .ok v → PrefixTable.Foreseen v
  template : ∀ t, (fs.loadTemplate r.encoding (Location.parse r.template) .null).outcome = .ok t → t.IsTame
  /-- The format admits the terms that the template supplies, and the prefixes that the table takes. -/
  written : ∀ format m document, Format.named? r.format = some format → r.Reads fs m document →
    format.Admits (m.Supplies document) m.table.MayBind

namespace MapRequest.Foreseen

variable {r : MapRequest} {fs : Files}

theorem failsReported_mapGraph (hlibrary : Library.Reliable) (h : r.Foreseen fs) (hencoding : r.encoding = "utf-8") :
    FailsReported (fs.mapGraph r).outcome := by
  unfold Files.mapGraph
  simp only [Traced.outcome_bind, Traced.outcome_lift]
  refine FailsOnly.bind ?_ fun v hv => ?_
  · unfold Files.loadPrefixes
    split
    · exact failsOnly_ok _
    · exact failsOnly_ok _
    · exact hencoding ▸ fs.failsReported_readJson hlibrary _
  refine (hencoding ▸ fs.failsReported_loadTemplate hlibrary _ _).bind fun t ht => ?_
  rcases PrefixTable.ofJson_cases (h.prefixes v hv) with ⟨table, htable, hsound⟩ | ⟨cause, hcause⟩
  · have htype : Reference.Textual t.typeRef := fs.textual_of_loadTemplate (fun htruthy => by cases htruthy) ht
    have hconfines := (h.template t ht).confines hsound htype
    rw [htable]
    show FailsReported (Mapper.ofTemplate t table >>= _)
    refine (Mapper.failsReported_ofTemplate t table).bind fun m hm => ?_
    refine (hencoding ▸ fs.failsReported_readJson hlibrary _).bind fun document _ => ?_
    obtain ⟨rfl, rfl⟩ := Mapper.parts_of_ofTemplate hm
    exact Mapper.failsReported_build hsound hconfines document
  · rw [hcause]
    exact failsOnly_error rfl

/-- The format admits the graph of the map run. -/
theorem admits (h : r.Foreseen fs) {g : Graph} {ns : Namespaces} (hgraph : (fs.mapGraph r).outcome = .ok (g, ns))
    {format : Format} (hformat : Format.named? r.format = some format) : format.Admits g.Uses ns.Binds := by
  unfold Files.mapGraph at hgraph
  simp only [Traced.outcome_bind, Traced.outcome_lift, bind_eq_ok] at hgraph
  obtain ⟨v, hv, t, ht, table, htable, m, hm, document, hdocument, hbuild⟩ := hgraph
  obtain ⟨rfl, rfl⟩ := Mapper.parts_of_ofTemplate hm
  have hreads : r.Reads fs m document := ⟨⟨v, hv, htable⟩, ht, hdocument⟩
  refine (h.written format m document hformat hreads).mono ?_ ?_
  · exact fun x hx => Mapper.uses_of_build hbuild hx
  · exact fun name iri hbinds => PrefixTable.mayBind_of_bindTo (Mapper.parts_of_build hbuild).1 hbinds

end MapRequest.Foreseen

/-! ## Commands -/

namespace CommandLine

/-- The encoding that the files of a command are read in. -/
def Command.encoding : Command → String
  | .exporting r => r.encoding
  | .mapping r => r.encoding

/-- The graph of a command, before it is written. -/
def Command.graph (env : Environment) (fs : Files) : Command → Traced (Graph × Namespaces)
  | .exporting r => fs.exportGraph env r
  | .mapping r => fs.mapGraph r

/-- Where nothing checks what a command reads, it is of the kinds that are reckoned with. -/
structure Command.Foreseen (c : Command) (env : Environment) (fs : Files) : Prop where
  exporting : ∀ r, c = .exporting r → r.Foreseen env fs
  mapping : ∀ r, c = .mapping r → r.Foreseen fs

variable {c : Command} {env : Environment} {fs : Files}

/-- A command builds its graph, writes it and delivers the text. -/
theorem Command.run_eq (c : Command) (env : Environment) (fs : Files) :
    c.run env fs = (c.graph env fs >>= fun g => Traced.lift (Files.compose c.format g)) >>=
      fs.deliver c.out c.format := by
  cases c with
  | exporting r =>
    show fs.composeExport env r >>= _ = _
    rw [Files.exportGraph_bind]
    rfl
  | mapping r =>
    show fs.composeMap r >>= _ = _
    rw [Files.mapGraph_bind]
    rfl

theorem Command.Foreseen.failsReported_graph (hlibrary : Library.Reliable) (h : c.Foreseen env fs)
    (hencoding : c.encoding = "utf-8") : FailsReported (c.graph env fs).outcome := by
  cases c with
  | exporting r => exact (h.exporting r rfl).failsReported_exportGraph hlibrary hencoding
  | mapping r => exact (h.mapping r rfl).failsReported_mapGraph hlibrary hencoding

/-- The graph of a command is one that its format admits. -/
theorem Command.Foreseen.admits (h : c.Foreseen env fs) {g : Graph × Namespaces}
    (hgraph : (c.graph env fs).outcome = .ok g) {format : Format} (hformat : Format.named? c.format = some format) :
    format.Admits g.1.Uses g.2.Binds := by
  cases c with
  | exporting r => exact (h.exporting r rfl).admits hgraph hformat
  | mapping r => exact (h.mapping r rfl).admits hgraph hformat

theorem Command.Foreseen.failsReported_run (hlibrary : Library.Reliable) (h : c.Foreseen env fs)
    (hencoding : c.encoding = "utf-8") : FailsReported (c.run env fs).outcome := by
  rw [c.run_eq, Traced.outcome_bind, Traced.outcome_bind]
  refine FailsOnly.bind ?_ fun d _ => fs.failsReported_deliver c.out c.format d
  refine (h.failsReported_graph hlibrary hencoding).bind fun g hg => ?_
  rw [Traced.outcome_lift]
  refine FailsOnly.bind ?_ fun text _ => failsOnly_pure _
  unfold Format.serialize
  split
  · next format hformat => exact hlibrary.writes format g.1 g.2 (h.admits hg hformat)
  · exact failsOnly_error rfl

/-- What a command gives back is the text of its graph. It is printed, or it is in the file that was asked for. -/
structure Command.Produces (c : Command) (env : Environment) (fs : Files) (p : Product) : Prop where
  text : ∃ g, (c.graph env fs).outcome = .ok g ∧ Format.serialize c.format g.1 g.2 = .ok p.document.text
  printed : c.out = none → (Ending.finished p).output = p.document.text
  saved : ∀ name, c.out = some name →
    p.files.readBytes (Location.parse name) = .ok p.document.text.toUTF8.toList

theorem Command.produces_of_run {p : Product} (h : (c.run env fs).outcome = .ok p) : c.Produces env fs p := by
  rw [c.run_eq, Traced.outcome_bind, Traced.outcome_bind] at h
  obtain ⟨d, hd, hdelivered⟩ := bind_eq_ok.mp h
  obtain ⟨g, hg, hcompose⟩ := bind_eq_ok.mp hd
  obtain ⟨text, htext, hdocument⟩ := bind_eq_ok.mp hcompose
  cases hdocument
  have hsame := fs.document_of_deliver hdelivered
  refine ⟨⟨g, hg, by rw [hsame]; exact htext⟩, ?_, ?_⟩
  · intro hout
    rw [hout] at hdelivered
    cases hdelivered
    rfl
  · intro name hout
    rw [hout] at hdelivered
    rw [hsame]
    exact Files.readBytes_save (Session.save_of_deliver hdelivered)

/-- **Input that is foreseen is answered for.** Whatever the files hold: a command line that is understood, with the default
    encoding, finishes with its document, which is printed or saved, or its failure is reported, unless something is not of
    the kind that is reckoned with where nothing checks it. The library has to be reliable. -/
theorem run_contained (hlibrary : Library.Reliable) (env : Environment) (fs : Files) {arguments : List String} {o : Options}
    (hparse : Options.parse arguments = .ok o) (hencoding : o.command.encoding = "utf-8")
    (h : o.command.Foreseen env fs) :
    (∃ p, (run env fs arguments).ending = .finished p ∧ (run env fs arguments).ending.exitCode? = some 0 ∧
        o.command.Produces env fs p) ∨
      ∃ why, (run env fs arguments).ending = .failed why ∧ (run env fs arguments).ending.exitCode? = some 1 ∧
        (o.command.run env fs).outcome = .error why := by
  -- the command ends with a document, or with a failure that is reported
  cases hrun : (o.command.run env fs).outcome with
  | ok p =>
    rw [ending_of_ok hparse hrun]
    exact .inl ⟨p, rfl, rfl, Command.produces_of_run hrun⟩
  | error why =>
    rw [ending_of_error hparse hrun, if_pos (h.failsReported_run hlibrary hencoding why hrun)]
    exact .inr ⟨why, rfl, rfl, rfl⟩

end CommandLine

end

/-! ## Two exports -/

namespace CommandLine

/-- Nothing but the files. -/
def bare : Environment := ⟨"", none, []⟩

/-- An export of one document with a root configuration. -/
def exportArguments : List String := ["export", "d", "--config", "c"]

/-- The files of an export: an empty document, a root configuration and a template. -/
def exportFiles (root template : String) : Files :=
  ⟨[], [(["d"], .file (Export.asciiBytes "\x7b\x7d")), (["c"], .file (Export.asciiBytes root)),
    (["t"], .file (Export.asciiBytes template))]⟩

theorem parse_exportArguments : Options.parse exportArguments =
    .ok ⟨false, false, .exporting { document := "d", config := some "c" }⟩ := by
  rfl

/-- A root configuration with an element that is related to itself. -/
def relatedRoot : String :=
  "\x7b\"elements\":[\x7b\"id\":\"a\",\"file\":\"t\"\x7d],"
    ++ "\"relations\":[\x7b\"subject\":\"a\",\"predicate\":\"<u:p>\",\"object\":\"a\"\x7d]\x7d"

/-- A template that names its subject. -/
def namedSubject : String := "\x7b\"subject\":\x7b\"const\":\"u:a\"\x7d\x7d"

def relatedMembers : List (String × Json) := [
  ("elements", .array [.object [("id", .text "a"), ("file", .text "t")]]),
  ("relations", .array [.object [("subject", .text "a"), ("predicate", .text "<u:p>"), ("object", .text "a")]])]

theorem readMembers_relatedRoot :
    (exportFiles relatedRoot namedSubject).readMembers "utf-8" (Location.parse "c") = .ok relatedMembers := by
  have hjson : (exportFiles relatedRoot namedSubject).readJson "utf-8" (Location.parse "c") =
      .ok (.object relatedMembers) := Export.readJson_of_ascii rfl rfl (by cbv)
  exact Files.readMembers_of_readJson hjson

theorem foreseen_relatedMembers : RootConfig.Foreseen relatedMembers := by
  have helement : ∀ entry, RootConfig.Lists relatedMembers "elements" ["id", "file"] entry →
      entry = [("id", .text "a"), ("file", .text "t")] := by
    intro entry hentry
    obtain ⟨values, hvalues, v, hv, hcomplete⟩ := hentry
    cases hvalues
    cases List.mem_singleton.mp hv
    cases hcomplete
    rfl
  have hrelation : ∀ entry, RootConfig.Lists relatedMembers "relations" ["subject", "predicate", "object"] entry →
      entry = [("subject", .text "a"), ("predicate", .text "<u:p>"), ("object", .text "a")] := by
    intro entry hentry
    obtain ⟨values, hvalues, v, hv, hcomplete⟩ := hentry
    cases hvalues
    cases List.mem_singleton.mp hv
    cases hcomplete
    rfl
  refine ⟨fun _ => trivial, fun _ => trivial, ?_, ?_, ?_, ?_⟩
  · intro entries hentries
    cases hentries
  · intro entry hentry htruthy
    rw [helement entry hentry] at htruthy
    cases htruthy
  · intro entry hentry
    rw [hrelation entry hentry]
    exact ⟨trivial, trivial⟩
  · intro entry hentry
    rw [hrelation entry hentry]
    exact ⟨"<u:p>", rfl⟩

/-- The root configuration as it is read. -/
def relatedConfig : RootConfig where
  trace := false
  prefixes := []
  elements := [⟨"a", .null, "t"⟩]
  relations := [⟨"a", .text "<u:p>", "a"⟩]
  formats := {}

theorem loadRoot_relatedRoot : ((exportFiles relatedRoot namedSubject).loadRoot bare "utf-8" (some "c")).outcome =
    .ok (relatedConfig, ⟨"/", []⟩) := by
  unfold Files.loadRoot
  simp only [Traced.outcome_bind, Traced.outcome_lift]
  refine bind_eq_ok.mpr ⟨"c", rfl, bind_eq_ok.mpr ⟨Location.parse "c", rfl, ?_⟩⟩
  exact bind_eq_ok.mpr ⟨relatedMembers, readMembers_relatedRoot, bind_eq_ok.mpr ⟨relatedConfig, rfl, rfl⟩⟩

/-- The template as it is read. -/
def namedTemplate : ResourceTemplate where
  subject := { const := some "u:a" }

theorem not_owns_namedTemplate (p : Property) : ¬ namedTemplate.Owns p := by
  intro h
  cases h with
  | outer property => cases property
  | inner node => cases node

theorem not_types_namedTemplate (reference : String) : ¬ namedTemplate.Types reference := by
  intro h
  cases h with
  | outer typed => cases typed
  | inner node => cases node

theorem loadTemplate_namedSubject :
    ((exportFiles relatedRoot namedSubject).loadTemplate "utf-8" ⟨"/", ["t"]⟩ .null).outcome = .ok namedTemplate := by
  have hjson : (exportFiles relatedRoot namedSubject).readJson "utf-8" ⟨"/", ["t"]⟩ =
      .ok (.object [("subject", .object [("const", .text "u:a")])]) := Export.readJson_of_ascii rfl rfl (by cbv)
  have hmembers : (exportFiles relatedRoot namedSubject).readMembers "utf-8" ⟨"/", ["t"]⟩ =
      .ok [("subject", .object [("const", .text "u:a")])] := Files.readMembers_of_readJson hjson
  unfold Files.loadTemplate
  rw [Traced.outcome_bind, Traced.outcome_lift, hmembers]
  rfl

/-- The one element with its template. -/
def relatedTemplates : List (Element × ResourceTemplate) :=
  [(⟨"a", .null, "t"⟩, namedTemplate)]

theorem loadElements_relatedRoot :
    ((exportFiles relatedRoot namedSubject).loadElements "utf-8" ⟨"/", []⟩ relatedConfig).outcome =
      .ok relatedTemplates := by
  have hplace : (⟨"/", []⟩ : Location).join (Location.parse "t") = ⟨"/", ["t"]⟩ := by decide
  rw [Files.outcome_loadElements]
  simp only [relatedConfig, List.mapM_cons, List.mapM_nil, hplace, loadTemplate_namedSubject]
  rfl

/-- All that the export supplies is the name of the subject, the predicate of the relation, and that of types. -/
theorem eq_of_supplies_related {document : Json} {x : Term} (h : Export.Supplies relatedConfig relatedTemplates document x) :
    x = .node (.iri "u:a") ∨ x = .node (.iri "u:p") ∨ x = .node (.iri rdfType) := by
  cases h with
  | relation related written expands =>
    cases List.mem_singleton.mp related
    cases written
    cases expands
    exact .inr (.inl rfl)
  | element loads mapper supplies =>
    cases List.mem_singleton.mp loads
    obtain ⟨htemplate, -⟩ := Mapper.parts_of_ofTemplate mapper
    obtain ⟨_, _, f, _, supplies⟩ := supplies
    cases supplies with
    | subject identified =>
      rw [htemplate] at identified
      cases identified
      exact .inl rfl
    | typing => exact .inr (.inr rfl)
    | inner node =>
      rw [htemplate] at node
      cases node
    | type typed => exact absurd (htemplate ▸ typed) (not_types_namedTemplate _)
    | predicate owned => exact absurd (htemplate ▸ owned) (not_owns_namedTemplate _)
    | literal owned => exact absurd (htemplate ▸ owned) (not_owns_namedTemplate _)
    | resource owned => exact absurd (htemplate ▸ owned) (not_owns_namedTemplate _)

theorem foreseen_relatedRoot : Command.Foreseen (.exporting { document := "d", config := some "c" }) bare
    (exportFiles relatedRoot namedSubject) := by
  refine ⟨?_, ?_⟩
  · intro r hr
    cases hr
    refine ⟨?_, ?_, ?_, ?_⟩
    · intro name user rest hname htilde
      cases hname
      cases htilde
    · intro name l members hname hl hmembers
      cases hname
      cases hl
      rw [readMembers_relatedRoot] at hmembers
      cases hmembers
      exact foreseen_relatedMembers
    · intro root base hroot e he t ht
      rw [loadRoot_relatedRoot] at hroot
      cases hroot
      cases List.mem_singleton.mp he
      rw [show (⟨"/", []⟩ : Location).join (Location.parse "t") = ⟨"/", ["t"]⟩ by decide,
        loadTemplate_namedSubject] at ht
      cases ht
      intro path hpath
      cases hpath
    · intro format root loaded document hformat hreads
      cases hformat
      obtain ⟨base, hroot, hloaded⟩ := hreads.root
      rw [loadRoot_relatedRoot] at hroot
      cases hroot
      rw [loadElements_relatedRoot] at hloaded
      cases hloaded
      constructor
      · intro s hs
        rcases eq_of_supplies_related hs with hs | hs | hs
        · cases hs
          decide
        · cases hs
          decide
        · cases hs
          decide
      · intro a b ha
        rcases eq_of_supplies_related ha with ha | ha | ha
        all_goals cases ha
  · intro r hr
    cases hr

/-- The files of the first export are answered for. -/
theorem run_contained_ofRelated :
    (∃ o, Options.parse exportArguments = .ok o ∧ o.command.encoding = "utf-8" ∧
      o.command.Foreseen bare (exportFiles relatedRoot namedSubject)) ∧
    ((run bare (exportFiles relatedRoot namedSubject) exportArguments).ending.exitCode? = some 0 ∨
      (run bare (exportFiles relatedRoot namedSubject) exportArguments).ending.exitCode? = some 1) := by
  refine ⟨⟨_, parse_exportArguments, rfl, foreseen_relatedRoot⟩, ?_⟩
  rcases run_contained Library.reliable_builtin bare _ parse_exportArguments rfl foreseen_relatedRoot with
    ⟨p, _, hcode, _⟩ | ⟨why, _, hcode, _⟩
  · exact .inl hcode
  · exact .inr hcode

/-- A root configuration in which a list stands for the end of a relation. -/
def listedEnd : String :=
  "\x7b\"relations\":[\x7b\"subject\":[\"a\"],\"predicate\":\"p\",\"object\":\"a\"\x7d]\x7d"

/-- The second export is broken off: its root configuration is neither read nor refused, and there is no exit code. -/
theorem run_ofListedEnd : Options.parse exportArguments =
      .ok ⟨false, false, .exporting { document := "d", config := some "c" }⟩ ∧
    (run bare (exportFiles listedEnd namedSubject) exportArguments).ending = .brokenOff (.shape .notComparable) ∧
    (run bare (exportFiles listedEnd namedSubject) exportArguments).ending.exitCode? = none := by
  have hjson : (exportFiles listedEnd namedSubject).readJson "utf-8" (Location.parse "c") =
      .ok (.object [("relations", .array [.object
        [("subject", .array [.text "a"]), ("predicate", .text "p"), ("object", .text "a")]])]) :=
    Export.readJson_of_ascii rfl rfl (by cbv)
  -- a list cannot be looked up among the identifiers of elements, and nothing says so
  have hroot : ((exportFiles listedEnd namedSubject).loadRoot bare "utf-8" (some "c")).outcome =
      .error (.shape .notComparable) := by
    unfold Files.loadRoot
    simp only [Traced.outcome_bind, Traced.outcome_lift]
    refine bind_eq_error.mpr (.inr ⟨"c", rfl, bind_eq_error.mpr (.inr ⟨Location.parse "c", rfl, ?_⟩)⟩)
    exact bind_eq_error.mpr (.inr ⟨_, Files.readMembers_of_readJson hjson, bind_eq_error.mpr (.inl rfl)⟩)
  have hrun : (Command.run (.exporting { document := "d", config := some "c" }) bare
      (exportFiles listedEnd namedSubject)).outcome = .error (.shape .notComparable) := by
    show ((exportFiles listedEnd namedSubject).runExport bare _).outcome = _
    unfold Files.runExport Files.composeExport
    simp only [Traced.outcome_bind]
    exact bind_eq_error.mpr (.inl (bind_eq_error.mpr (.inl hroot)))
  have hending : (run bare (exportFiles listedEnd namedSubject) exportArguments).ending =
      .brokenOff (.shape .notComparable) := ending_of_error parse_exportArguments hrun
  exact ⟨parse_exportArguments, hending, by rw [hending]; rfl⟩

end CommandLine

end GraphLift
