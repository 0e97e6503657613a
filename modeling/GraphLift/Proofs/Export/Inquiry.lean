import GraphLift.Proofs.CommandLine.Session

/-! # What an export asks for

    An export can be told as an inquiry. It gets to know files by asking for one after the other, and what it asks for next
    depends on the answers so far.

    * **Inquiries** (`Inquiry`) are runs that have no other access to files. `Inquiry.run` answers them from a tree of files,
      and `Inquiry.asked` lists the locations in the order in which they are asked for.
    * **Answers** are all that matters of a tree (`Inquiry.run_of_answers`): a file that is not asked for may hold anything.
    * **An export is an inquiry** (`Session.composeExport_eq_inquiry`): for the configuration first, for the document if the
      format is available, and for the templates if the prefixes can be bound.
-/

namespace GraphLift

/-- A run that asks for files one after the other. -/
inductive Inquiry (α : Type) where
  | done (x : Except Failure α)
  | report (records : List Record) (rest : Inquiry α)
  /-- Asks for the JSON value in a file, and goes on with what there is. -/
  | ask (encoding : String) (l : Location) (next : Except Failure Json → Inquiry α)

namespace Inquiry

variable {α β : Type}

/-! ## Sequences -/

/-- Goes on with `f`, unless there is a failure. -/
protected def bind : Inquiry α → (α → Inquiry β) → Inquiry β
  | .done (.ok a), f => f a
  | .done (.error e), _ => .done (.error e)
  | .report records rest, f => .report records (rest.bind f)
  | .ask encoding l next, f => .ask encoding l fun v => (next v).bind f

instance : Monad Inquiry where
  pure a := .done (.ok a)
  bind := Inquiry.bind

/-- The inquiry comes to nothing. -/
def fail (e : Failure) : Inquiry α := .done (.error e)

/-- A run that asks for no file. -/
def told (x : Traced α) : Inquiry α := .report x.records (.done x.outcome)

/-- The inquiry with all its records marked. -/
def marked : Inquiry α → Inquiry α
  | .done x => .done x
  | .report records rest => .report (records.map fun r => ⟨r.event, true⟩) rest.marked
  | .ask encoding l next => .ask encoding l fun v => (next v).marked

/-! ## Answers -/

variable [Library]

/-- Answers from a tree of files. -/
def run (fs : Files) : Inquiry α → Traced α
  | .done x => Traced.lift x
  | .report records rest => ⟨records ++ (rest.run fs).records, (rest.run fs).outcome⟩
  | .ask encoding l next => (next (fs.readJson encoding l)).run fs

/-- The locations that are asked for, if the answers are those of a tree of files. -/
def asked (fs : Files) : Inquiry α → List Location
  | .done _ => []
  | .report _ rest => rest.asked fs
  | .ask encoding l next => l :: (next (fs.readJson encoding l)).asked fs

@[simp] theorem run_pure (fs : Files) (a : α) : (pure a : Inquiry α).run fs = pure a := rfl

@[simp] theorem run_fail (fs : Files) (e : Failure) : (fail e : Inquiry α).run fs = throw e := rfl

@[simp] theorem run_told (fs : Files) (x : Traced α) : (told x).run fs = x := by
  show (⟨x.records ++ [], x.outcome⟩ : Traced α) = x
  rw [List.append_nil]

@[simp] theorem asked_pure (fs : Files) (a : α) : (pure a : Inquiry α).asked fs = [] := rfl

@[simp] theorem asked_fail (fs : Files) (e : Failure) : (fail e : Inquiry α).asked fs = [] := rfl

@[simp] theorem asked_told (fs : Files) (x : Traced α) : (told x).asked fs = [] := rfl

/-- A sequence of inquiries is answered in sequence. -/
@[simp] theorem run_bind (fs : Files) (x : Inquiry α) (f : α → Inquiry β) :
    (x >>= f).run fs = x.run fs >>= fun a => (f a).run fs := by
  induction x with
  | done x => cases x <;> rfl
  | report records rest ih =>
    have hrest : (rest.bind f).run fs = Traced.bind (rest.run fs) fun a => (f a).run fs := ih
    show (⟨records ++ ((rest.bind f).run fs).records, ((rest.bind f).run fs).outcome⟩ : Traced β) =
      Traced.bind ⟨records ++ (rest.run fs).records, (rest.run fs).outcome⟩ _
    rw [hrest]
    unfold Traced.bind
    cases (rest.run fs).outcome with
    | error e => rfl
    | ok a => simp
  | ask encoding l next ih => exact ih (fs.readJson encoding l)

/-- A sequence of inquiries asks for what the first one asks for, and for what the second one does if there is one. -/
theorem asked_bind_of_ok {fs : Files} {x : Inquiry α} {a : α} (h : (x.run fs).outcome = .ok a) (f : α → Inquiry β) :
    (x >>= f).asked fs = x.asked fs ++ (f a).asked fs := by
  induction x with
  | done x =>
    have hx : x = .ok a := h
    rw [hx]
    rfl
  | report records rest ih => exact ih h
  | ask encoding l next ih => exact congrArg (l :: ·) (ih (fs.readJson encoding l) h)

theorem run_marked (fs : Files) (x : Inquiry α) : x.marked.run fs = (x.run fs).marked := by
  induction x with
  | done x => rfl
  | report records rest ih =>
    show (⟨_ ++ (rest.marked.run fs).records, (rest.marked.run fs).outcome⟩ : Traced α) = Traced.marked ⟨_, _⟩
    rw [ih]
    simp [Traced.marked]
  | ask encoding l next ih => exact ih (fs.readJson encoding l)

/-- Where two trees answer alike, an inquiry comes to the same, and it asks for the same. -/
theorem run_of_answers {fs fs' : Files} {x : Inquiry α}
    (h : ∀ l ∈ x.asked fs, ∀ encoding, fs'.readJson encoding l = fs.readJson encoding l) :
    x.run fs' = x.run fs ∧ x.asked fs' = x.asked fs := by
  induction x with
  | done x => exact ⟨rfl, rfl⟩
  | report records rest ih =>
    obtain ⟨hrun, hasked⟩ := ih h
    refine ⟨?_, hasked⟩
    show (⟨records ++ (rest.run fs').records, (rest.run fs').outcome⟩ : Traced α) = _
    rw [hrun]
    rfl
  | ask encoding l next ih =>
    obtain ⟨hanswer, hrest⟩ := List.forall_mem_cons.mp h
    obtain ⟨hrun, hasked⟩ := ih (fs.readJson encoding l) hrest
    unfold run asked
    rw [hanswer encoding, hrun, hasked]
    exact ⟨rfl, rfl⟩

/-- One inquiry for each value of a list, in order. -/
def each (f : α → Inquiry β) : List α → Inquiry (List β)
  | [] => pure []
  | a :: rest => do
    let b ← f a
    let bs ← each f rest
    return b :: bs

theorem run_each (fs : Files) (f : α → Inquiry β) (as : List α) :
    (each f as).run fs = as.mapM fun a => (f a).run fs := by
  induction as with
  | nil => rfl
  | cons a rest ih => simp only [each, run_bind, run_pure, ih, List.mapM_cons]

end Inquiry

/-! ## Files of an export -/

namespace Files

/-- The members of the object in a configuration file, from what there is in it. -/
def membersOf (l : Location) : Except Failure Json → Except Failure (List (String × Json))
  | .ok (.object members) => .ok members
  | .ok _ => .error (.config (.topLevel l.text))
  | .error (.file ⟨.missing, _⟩) => .error (.config (.fileMissing l.text))
  | .error (.json e) => .error (.config (.badJson l.text e))
  | .error e => .error e

/-- Where the root configuration is. -/
def configLocation (env : Environment) (config : Option String) : Except Failure Location :=
  configName env config >>= fun name => expandHome env (Location.parse name)

theorem loadRoot_eq [Library] (fs : Files) (env : Environment) (encoding : String) (config : Option String) :
    fs.loadRoot env encoding config = Traced.lift (configLocation env config) >>= fun l =>
      Traced.lift (fs.readMembers encoding l) >>= fun members =>
        RootConfig.read members >>= fun root => pure (root, (fs.resolve l).parent) := by
  unfold loadRoot configLocation
  cases configName env config with
  | error e => rfl
  | ok name => rfl

end Files

namespace Inquiry

variable [Library]

/-- Asks for the members of the object in a configuration file. -/
def members (encoding : String) (l : Location) : Inquiry (List (String × Json)) :=
  .ask encoding l fun v => .done (Files.membersOf l v)

/-- Asks for a document. -/
def document (encoding : String) (l : Location) : Inquiry Json :=
  .ask encoding l .done

/-- Asks for the template in a file. -/
def template (encoding : String) (l : Location) (outside : Json) : Inquiry ResourceTemplate :=
  members encoding l >>= fun members => told (Template.read members outside)

/-- Asks for the root configuration, and gives the directory it is in as well. Relative locations start from the working
    directory `here`. -/
def root (here : List String) (env : Environment) (encoding : String) (config : Option String) :
    Inquiry (RootConfig × Location) := do
  let l ← told (Traced.lift (Files.configLocation env config))
  let root ← told (RootConfig.read (← members encoding l))
  return (root, (Files.resolve ⟨here, []⟩ l).parent)

/-- Asks for the templates of the elements. -/
def elements (encoding : String) (base : Location) (root : RootConfig) : Inquiry (List (Element × ResourceTemplate)) :=
  each (fun e => do return (e, ← template encoding (base.join (Location.parse e.file)) e.typeRef)) root.elements

/-- Asks for the templates, once the prefixes are bound, and builds the graph. -/
def graph (encoding : String) (base : Location) (root : RootConfig) (document : Json) : Inquiry (Graph × Namespaces) := do
  let _ ← told (Traced.lift ((PrefixTable.ofTexts root.prefixes).bindTo .standard))
  let loaded ← elements encoding base root
  told (Export.graph root (pure loaded) document)

/-- Builds the graph, with all records marked if the trace is on. -/
def build (encoding : String) (base : Location) (root : RootConfig) (document : Json) : Inquiry (Graph × Namespaces) :=
  if root.trace then (graph encoding base root document).marked else graph encoding base root document

/-- An export up to its text. -/
def composeExport (serialize : Serializer) (here : List String) (env : Environment) (r : ExportRequest) :
    Inquiry Document := do
  let (config, base) ← root here env r.encoding r.config
  if config.formats.isAvailable r.format then
    let value ← document r.encoding (Location.parse r.document)
    let g ← build r.encoding base config value
    let text ← told (Traced.lift (serialize r.format g.1 g.2))
    return ⟨g.1, text⟩
  else fail (.config (.formatDisabled r.format))

variable (fs : Files) (encoding : String)

theorem run_members (l : Location) : (members encoding l).run fs = Traced.lift (fs.readMembers encoding l) := rfl

theorem run_document (l : Location) : (document encoding l).run fs = Traced.lift (fs.readJson encoding l) := rfl

theorem run_template (l : Location) (outside : Json) :
    (template encoding l outside).run fs = fs.loadTemplate encoding l outside := by
  unfold template Files.loadTemplate
  simp only [run_bind, run_members, run_told]

theorem run_root (env : Environment) (config : Option String) :
    (root fs.here env encoding config).run fs = fs.loadRoot env encoding config := by
  unfold root
  simp only [run_bind, run_told, run_members, run_pure, Files.loadRoot_eq]
  rfl

/-- A root configuration that is read was asked for, and nothing else was. -/
theorem asked_root {env : Environment} {config : Option String} {l : Location} {entries : List (String × Json)}
    {value : RootConfig} (hlocation : Files.configLocation env config = .ok l)
    (hmembers : fs.readMembers encoding l = .ok entries) (hread : (RootConfig.read entries).outcome = .ok value) :
    ((root fs.here env encoding config).run fs).outcome = .ok (value, (fs.resolve l).parent) ∧
      ((root fs.here env encoding config).run fs).records = (RootConfig.read entries).records ∧
      (root fs.here env encoding config).asked fs = [l] := by
  have hpure : ∀ {α : Type} (a : α), Traced.lift (.ok a) = (pure a : Traced α) := fun _ => rfl
  have hrun : (root fs.here env encoding config).run fs =
      RootConfig.read entries >>= fun root => pure (root, (fs.resolve l).parent) := by
    rw [run_root, Files.loadRoot_eq, hlocation, hpure, pure_bind, hmembers, hpure, pure_bind]
  refine ⟨?_, ?_, ?_⟩
  · rw [hrun, Traced.outcome_bind, hread]
    rfl
  · rw [hrun, Traced.records_bind_of_ok hread, Traced.records_pure, List.append_nil]
  · have hl : ((told (Traced.lift (Files.configLocation env config))).run fs).outcome = .ok l := by
      rw [run_told]
      exact hlocation
    have hentries : ((members encoding l).run fs).outcome = .ok entries := by
      rw [run_members]
      exact hmembers
    have hvalue : ((told (RootConfig.read entries)).run fs).outcome = .ok value := by
      rw [run_told]
      exact hread
    unfold root
    rw [asked_bind_of_ok hl, asked_bind_of_ok hentries, asked_bind_of_ok hvalue]
    rfl

theorem run_elements (base : Location) (root : RootConfig) :
    (elements encoding base root).run fs = fs.loadElements encoding base root := by
  unfold elements Files.loadElements
  simp only [run_each, run_bind, run_template, run_pure]

end Inquiry

/-- Templates are loaded once the prefixes are bound, and before anything else is done. -/
theorem Export.graph_eq [Library] (root : RootConfig) (load : Traced (List (Element × ResourceTemplate))) (document : Json) :
    Export.graph root load document =
      Traced.lift ((PrefixTable.ofTexts root.prefixes).bindTo .standard) >>= fun _ =>
        load >>= fun loaded => Export.graph root (pure loaded) document := by
  unfold Export.graph
  dsimp only
  cases (PrefixTable.ofTexts root.prefixes).bindTo .standard with
  | error e => rfl
  | ok ns =>
    have hpure : (Traced.lift (.ok ns) : Traced Namespaces) = pure ns := rfl
    simp only [hpure, pure_bind]

namespace Inquiry

variable [Library]

theorem run_graph (fs : Files) (encoding : String) (base : Location) (root : RootConfig) (document : Json) :
    (graph encoding base root document).run fs = Export.graph root (fs.loadElements encoding base root) document := by
  rw [Export.graph_eq]
  unfold graph
  simp only [run_bind, run_told, run_elements]

theorem run_build (fs : Files) (encoding : String) (base : Location) (root : RootConfig) (document : Json) :
    (build encoding base root document).run fs = Export.build root (fs.loadElements encoding base root) document := by
  unfold build Export.build
  split
  · rw [run_marked, run_graph]
  · rw [run_graph]

end Inquiry

namespace Session

/-- An export consults the files by an inquiry. -/
theorem composeExport_eq_inquiry [Library] (serialize : Serializer) (env : Environment) (r : ExportRequest) :
    composeExport serialize env r = consult fun fs => (Inquiry.composeExport serialize fs.here env r).run fs := by
  unfold composeExport Inquiry.composeExport
  simp only [Inquiry.run_bind, Inquiry.run_root]
  refine consult_bind fun x => ?_
  obtain ⟨config, base⟩ := x
  cases havailable : config.formats.isAvailable r.format with
  | false =>
    -- what would follow is never reached
    simp only [Bool.not_false, if_true, Bool.false_eq_true, if_false, Inquiry.run_fail]
    exact throw_eq_consult _
  | true =>
    simp only [Bool.not_true, Bool.false_eq_true, if_false, if_true, Inquiry.run_bind, Inquiry.run_document,
      Inquiry.run_build, Inquiry.run_told, Inquiry.run_pure]
    exact consult_bind fun value => consult_bind fun g => consult_bind fun text => pure_eq_consult _

end Session

end GraphLift
