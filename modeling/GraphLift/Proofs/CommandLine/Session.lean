import GraphLift.CommandLine.Session
import GraphLift.Proofs.Files.Tree
import Mathlib

/-! # What a command leaves behind

    A command changes nothing before its text is complete. If it fails until then, the files are as they were, and nothing
    is printed. Otherwise the file that was asked for holds the text, which is the one that is given back without a file.

    * **Quiet runs** (`Session.Quiet`) leave the files and the output alone, whatever comes out of them. Consulting is quiet,
      and runs in sequence are quiet if each of them is.
    * **Commands** are quiet up to their text (`Session.quiet_compose`). What follows either prints or writes a file.
    * **The command line** comes to the same when it is run at once (`Session.main_eq_run`).
-/

namespace GraphLift

open Stateful

namespace Session

variable {α β : Type}

/-! ## Steps -/

theorem outcome_consult (x : Files → Traced α) (s : Machine) : outcome (consult x) s = (x s.files).outcome := by
  unfold outcome consult
  cases (x s.files).outcome <;> rfl

theorem after_consult (x : Files → Traced α) (s : Machine) :
    after (consult x) s = { s with records := s.records ++ (x s.files).records } := by
  unfold after consult
  cases (x s.files).outcome <;> rfl

theorem outcome_change (f : Files → Except Failure Files) (s : Machine) :
    outcome (change f) s = (f s.files).map fun _ => () := by
  unfold outcome change
  cases f s.files <;> rfl

theorem after_change_of_ok {f : Files → Except Failure Files} {s : Machine} {files : Files}
    (h : f s.files = .ok files) : after (change f) s = { s with files } := by
  unfold after change
  rw [h]

theorem after_change_of_error {f : Files → Except Failure Files} {s : Machine} {e : Failure}
    (h : f s.files = .error e) : after (change f) s = s := by
  unfold after change
  rw [h]

/-- What follows a change goes on with the files that it leaves. -/
theorem change_bind_of_ok {f : Files → Except Failure Files} {s : Machine} {files : Files} (h : f s.files = .ok files)
    (k : Unit → Session α) :
    outcome (change f >>= k) s = outcome (k ()) { s with files } ∧
      after (change f >>= k) s = after (k ()) { s with files } := by
  have hchanged : outcome (change f) s = .ok () := by
    rw [outcome_change, h]
    rfl
  rw [outcome_bind, hchanged, after_bind_of_ok hchanged, after_change_of_ok h]
  exact ⟨rfl, rfl⟩

/-- Nothing follows a change that fails. -/
theorem change_bind_of_error {f : Files → Except Failure Files} {s : Machine} {e : Failure} (h : f s.files = .error e)
    (k : Unit → Session α) : outcome (change f >>= k) s = .error e ∧ after (change f >>= k) s = s := by
  have hchanged : outcome (change f) s = .error e := by
    rw [outcome_change, h]
    rfl
  rw [outcome_bind, hchanged, after_bind_of_error hchanged, after_change_of_error h]
  exact ⟨rfl, rfl⟩

/-- Consultations in sequence are one consultation, as the files are the same for all of them. -/
theorem consult_bind {x : Files → Traced α} {k : α → Session β} {y : α → Files → Traced β}
    (h : ∀ a, k a = consult (y a)) : consult x >>= k = consult fun fs => x fs >>= fun a => y a fs := by
  funext s
  show EStateM.bind (consult x) k s = _
  unfold EStateM.bind
  cases hx : (x s.files).outcome with
  | error e =>
    simp only [consult, hx, Traced.outcome_bind, Traced.records_bind_of_error hx]
    rfl
  | ok a =>
    simp only [consult, hx, h, Traced.outcome_bind, Traced.records_bind_of_ok hx, ← List.append_assoc]
    rfl

theorem pure_eq_consult (a : α) : (pure a : Session α) = consult fun _ => pure a := by
  funext s
  show EStateM.Result.ok a s = EStateM.Result.ok a { s with records := s.records ++ [] }
  rw [List.append_nil]

theorem throw_eq_consult (e : Failure) : (throw e : Session α) = consult fun _ => throw e := by
  funext s
  show EStateM.Result.error e s = EStateM.Result.error e { s with records := s.records ++ [] }
  rw [List.append_nil]

/-- A failure is passed to what is to be done about it, along with what the run left behind. -/
theorem tryCatch_of_error {w : Session α} {k : Failure → Session α} {s : Machine} {e : Failure}
    (h : outcome w s = .error e) :
    outcome (tryCatch w k) s = outcome (k e) (after w s) ∧ after (tryCatch w k) s = after (k e) (after w s) := by
  show outcome (EStateM.tryCatch w k) s = _ ∧ after (EStateM.tryCatch w k) s = _
  unfold outcome at h
  unfold outcome after EStateM.tryCatch
  cases hw : w s with
  | ok a s' =>
    rw [hw] at h
    cases h
  | error e' s' =>
    rw [hw] at h
    cases h
    exact ⟨rfl, rfl⟩

theorem tryCatch_of_ok {w : Session α} {k : Failure → Session α} {s : Machine} {a : α} (h : outcome w s = .ok a) :
    outcome (tryCatch w k) s = .ok a ∧ after (tryCatch w k) s = after w s := by
  show outcome (EStateM.tryCatch w k) s = _ ∧ after (EStateM.tryCatch w k) s = _
  unfold outcome at h
  unfold outcome after EStateM.tryCatch
  cases hw : w s with
  | ok a' s' =>
    rw [hw] at h
    exact ⟨h, rfl⟩
  | error e s' =>
    rw [hw] at h
    cases h

/-! ## Quiet runs -/

/-- Whatever comes out of the run, it leaves the files and the output as they were. -/
def Quiet (w : Session α) : Prop :=
  ∀ s, (after w s).files = s.files ∧ (after w s).printed = s.printed

theorem quiet_consult (x : Files → Traced α) : Quiet (consult x) := by
  intro s
  rw [after_consult]
  exact ⟨rfl, rfl⟩

theorem quiet_pure (a : α) : Quiet (pure a) :=
  fun _ => ⟨rfl, rfl⟩

theorem quiet_throw (e : Failure) : Quiet (throw e : Session α) :=
  fun _ => ⟨rfl, rfl⟩

theorem Quiet.bind {w : Session α} {k : α → Session β} (hw : Quiet w) (hk : ∀ a, Quiet (k a)) : Quiet (w >>= k) := by
  intro s
  cases h : outcome w s with
  | error e =>
    rw [after_bind_of_error h]
    exact hw s
  | ok a =>
    rw [after_bind_of_ok h]
    obtain ⟨hfiles, hprinted⟩ := hk a (after w s)
    exact ⟨hfiles.trans (hw s).1, hprinted.trans (hw s).2⟩

/-! ## Delivery -/

/-- A document is delivered as it is at once. If all goes well, the files are the same afterwards. -/
theorem deliver_eq (out : Option String) (format : String) (d : Document) (s : Machine) :
    outcome (deliver out format d) s = (s.files.deliver out format d).outcome.map Product.returned ∧
      (after (deliver out format d) s).records = s.records ++ (s.files.deliver out format d).records ∧
      (after (deliver out format d) s).printed = s.printed ∧
      ∀ p, (s.files.deliver out format d).outcome = .ok p →
        (after (deliver out format d) s).files = p.files ∧ p.saved.isNone = out.isNone := by
  cases out with
  | none =>
    refine ⟨rfl, (List.append_nil _).symm, rfl, ?_⟩
    intro p hp
    cases hp
    exact ⟨rfl, rfl⟩
  | some name =>
    unfold deliver Files.deliver
    dsimp only
    rw [Files.save_eq]
    -- directories are made first; they stay there if the file cannot be filled
    cases hmade : s.files.makeRoom (Location.parse name) with
    | error e =>
      have hroom := fun k : Unit → Session String =>
        change_bind_of_error (f := fun fs => fs.makeRoom (Location.parse name)) hmade k
      rw [(hroom _).1, (hroom _).2]
      refine ⟨rfl, (List.append_nil _).symm, rfl, ?_⟩
      intro p hp
      cases hp
    | ok made =>
      have hroom := fun k : Unit → Session String =>
        change_bind_of_ok (f := fun fs => fs.makeRoom (Location.parse name)) hmade k
      rw [(hroom _).1, (hroom _).2]
      cases hfilled : made.fill (Location.parse name) d.text with
      | error e =>
        have hfill := fun k : Unit → Session String =>
          change_bind_of_error (f := fun fs => fs.fill (Location.parse name) d.text) (s := { s with files := made }) hfilled k
        have hsave : (Except.ok made >>= fun made => made.fill (Location.parse name) d.text) = .error e := hfilled
        rw [(hfill _).1, (hfill _).2, hsave]
        refine ⟨rfl, (List.append_nil _).symm, rfl, ?_⟩
        intro p hp
        cases hp
      | ok filled =>
        have hfill := fun k : Unit → Session String =>
          change_bind_of_ok (f := fun fs => fs.fill (Location.parse name) d.text) (s := { s with files := made }) hfilled k
        have hsave : (Except.ok made >>= fun made => made.fill (Location.parse name) d.text) = .ok filled := hfilled
        rw [(hfill _).1, (hfill _).2, hsave]
        refine ⟨rfl, rfl, rfl, ?_⟩
        intro p hp
        cases hp
        exact ⟨rfl, rfl⟩

/-- What was delivered to a file was saved there. -/
theorem save_of_deliver {fs : Files} {name format : String} {d : Document} {p : Product}
    (h : (fs.deliver (some name) format d).outcome = .ok p) : fs.save (Location.parse name) d.text = .ok p.files := by
  simp only [Files.deliver, Traced.outcome_bind, Traced.outcome_lift, Outcome.bind_eq_ok] at h
  obtain ⟨files, hsave, _, _, h⟩ := h
  cases h
  exact hsave

/-- A document that is consulted for and then delivered comes to the same as when that is done at once. -/
theorem deliver_consult_eq (x : Files → Traced Document) (out : Option String) (format : String) (s : Machine) :
    outcome (consult x >>= deliver out format) s =
        (x s.files >>= s.files.deliver out format).outcome.map Product.returned ∧
      (after (consult x >>= deliver out format) s).records =
        s.records ++ (x s.files >>= s.files.deliver out format).records ∧
      (after (consult x >>= deliver out format) s).printed = s.printed ∧
      ∀ p, (x s.files >>= s.files.deliver out format).outcome = .ok p →
        (after (consult x >>= deliver out format) s).files = p.files ∧ p.saved.isNone = out.isNone := by
  have hconsult := outcome_consult x s
  cases hx : (x s.files).outcome with
  | error e =>
    rw [hx] at hconsult
    rw [outcome_bind, hconsult, after_bind_of_error hconsult, after_consult, Traced.outcome_bind, hx,
      Traced.records_bind_of_error hx]
    refine ⟨rfl, rfl, rfl, ?_⟩
    intro p hp
    cases hp
  | ok d =>
    rw [hx] at hconsult
    obtain ⟨houtcome, hrecords, hprinted, hfiles⟩ := deliver_eq out format d (after (consult x) s)
    rw [outcome_bind, hconsult, after_bind_of_ok hconsult, Traced.outcome_bind, hx, Traced.records_bind_of_ok hx]
    rw [after_consult] at houtcome hrecords hprinted hfiles ⊢
    rw [← List.append_assoc]
    refine ⟨houtcome, hrecords, hprinted, ?_⟩
    intro p hp
    exact hfiles p hp

theorem out_withOut (c : CommandLine.Command) (out : Option String) : (c.withOut out).out = out := by
  cases c <;> rfl

section

variable [Library]

/-! ## Texts -/

variable {serialize : Serializer} {env : Environment}

theorem quiet_composeExport (r : ExportRequest) : Quiet (composeExport serialize env r) := by
  refine (quiet_consult _).bind fun x => ?_
  obtain ⟨root, base⟩ := x
  have hrest : Quiet (do
      let document ← consult fun fs => Traced.lift (fs.readJson r.encoding (Location.parse r.document))
      let g ← consult fun fs => Export.build root (fs.loadElements r.encoding base root) document
      return (⟨g.1, ← consult fun _ => Traced.lift (serialize r.format g.1 g.2)⟩ : Document)) :=
    (quiet_consult _).bind fun _ => (quiet_consult _).bind fun _ => (quiet_consult _).bind fun _ => quiet_pure _
  dsimp only
  -- a format that is switched off ends the run before the document is read
  split
  · exact (quiet_throw _).bind fun _ => hrest
  · exact hrest

theorem quiet_composeMap (r : MapRequest) : Quiet (composeMap serialize r) :=
  (quiet_consult _).bind fun _ => (quiet_consult _).bind fun _ => (quiet_consult _).bind fun _ =>
    (quiet_consult _).bind fun _ => (quiet_consult _).bind fun _ => (quiet_consult _).bind fun _ =>
    (quiet_consult _).bind fun _ => quiet_pure _

/-- Nothing is changed or printed before the text of a command is complete. -/
theorem quiet_compose (serialize : Serializer) (env : Environment) (c : CommandLine.Command) :
    Quiet (compose serialize env c) := by
  cases c with
  | exporting r => exact quiet_composeExport r
  | mapping r => exact quiet_composeMap r

/-! ## Texts at once -/

theorem serialize_eq (format : String) (g : Graph × Namespaces) :
    (do return (⟨g.1, ← consult fun _ => Traced.lift (Format.serialize format g.1 g.2)⟩ : Document) : Session Document) =
      consult fun _ => Traced.lift (Files.compose format g) := by
  refine (consult_bind fun text => pure_eq_consult _).trans ?_
  congr 1
  funext fs
  unfold Files.compose
  cases Format.serialize format g.1 g.2 <;> rfl

/-- The document of a map run is the one that is made at once. -/
theorem composeMap_eq (r : MapRequest) :
    composeMap Format.serialize r = consult fun fs => fs.composeMap r := by
  unfold composeMap Files.composeMap
  refine consult_bind fun prefixes => consult_bind fun t => consult_bind fun table => consult_bind fun m => ?_
  exact consult_bind fun document => consult_bind fun g => serialize_eq r.format g

/-- The document of an export is the one that is made at once. -/
theorem composeExport_eq (env : Environment) (r : ExportRequest) :
    composeExport Format.serialize env r = consult fun fs => fs.composeExport env r := by
  unfold composeExport Files.composeExport
  refine consult_bind fun x => ?_
  obtain ⟨root, base⟩ := x
  by_cases havailable : (!root.formats.isAvailable r.format) = true
  · simp only [havailable, if_true]
    exact (congrArg (· >>= _) (throw_eq_consult _)).trans (consult_bind fun _ => consult_bind fun document =>
      consult_bind fun g => serialize_eq r.format g)
  · simp only [havailable]
    exact consult_bind fun document => consult_bind fun g => serialize_eq r.format g

/-! ## Commands -/

/-- What comes out of a command whose text is not completed, and what it leaves behind. -/
theorem perform_of_error {c : CommandLine.Command} {s : Machine} {e : Failure}
    (h : outcome (compose serialize env c) s = .error e) :
    outcome (perform serialize env c) s = .error e ∧
      after (perform serialize env c) s = after (compose serialize env c) s := by
  unfold perform
  refine ⟨?_, after_bind_of_error h _⟩
  rw [outcome_bind, h]
  rfl

theorem perform_of_ok {c : CommandLine.Command} {s : Machine} {d : Document}
    (h : outcome (compose serialize env c) s = .ok d) :
    outcome (perform serialize env c) s =
        outcome (deliver c.out c.format d) (after (compose serialize env c) s) ∧
      after (perform serialize env c) s = after (deliver c.out c.format d) (after (compose serialize env c) s) := by
  unfold perform
  refine ⟨?_, after_bind_of_ok h _⟩
  rw [outcome_bind, h]
  rfl

/-- Carrying a command out gives a text or fails; what is to be done about a failure is decided then. -/
theorem outcome_map_perform (serialize : Serializer) (env : Environment) (c : CommandLine.Command) (s : Machine) :
    outcome (some <$> perform serialize env c) s = (outcome (perform serialize env c) s).map some ∧
      after (some <$> perform serialize env c) s = after (perform serialize env c) s := by
  rw [map_eq_pure_bind]
  cases h : outcome (perform serialize env c) s with
  | error e =>
    refine ⟨?_, after_bind_of_error h _⟩
    rw [outcome_bind, h]
    rfl
  | ok text =>
    refine ⟨?_, after_bind_of_ok h _⟩
    rw [outcome_bind, h]
    rfl

/-- A command that fails prints nothing. It has an exit code if the failure is a fault of the input. -/
theorem main_of_error {c : CommandLine.Command} {s : Machine} {e : Failure}
    (h : outcome (perform serialize env c) s = .error e) :
    outcome (main serialize env c) s = (if CommandLine.isReported e then .ok 1 else .error e) ∧
      after (main serialize env c) s = after (perform serialize env c) s := by
  obtain ⟨hmap, hafter⟩ := outcome_map_perform serialize env c s
  rw [h] at hmap
  -- what is caught becomes no text, the rest is raised again
  obtain ⟨hcaught, hleft⟩ := tryCatch_of_error
    (k := fun e => if CommandLine.isReported e then return none else throw e) hmap
  rw [hafter] at hcaught hleft
  unfold main
  by_cases hreported : CommandLine.isReported e = true
  · rw [if_pos hreported] at hcaught hleft ⊢
    refine ⟨?_, (after_bind_of_ok hcaught _).trans hleft⟩
    rw [outcome_bind, hcaught]
    rfl
  · rw [if_neg hreported] at hcaught hleft ⊢
    refine ⟨?_, (after_bind_of_error hcaught _).trans hleft⟩
    rw [outcome_bind, hcaught]
    rfl

/-- A command that gives a text back prints it, unless it is to write a file. -/
theorem main_of_ok {c : CommandLine.Command} {s : Machine} {text : String}
    (h : outcome (perform serialize env c) s = .ok text) :
    outcome (main serialize env c) s = .ok 0 ∧
      after (main serialize env c) s =
        after (if c.out.isNone then print text else return) (after (perform serialize env c) s) := by
  obtain ⟨hmap, hafter⟩ := outcome_map_perform serialize env c s
  rw [h] at hmap
  obtain ⟨hcaught, hleft⟩ := tryCatch_of_ok
    (k := fun e => if CommandLine.isReported e then return none else throw e) hmap
  rw [hafter] at hleft
  unfold main
  rw [outcome_bind, hcaught, after_bind_of_ok hcaught, hleft]
  by_cases hout : c.out.isNone = true
  · simp only [hout, if_true]
    exact ⟨rfl, rfl⟩
  · simp only [hout]
    exact ⟨rfl, rfl⟩

/-- A command comes to the same as when it is run at once. -/
theorem perform_eq_run (env : Environment) (c : CommandLine.Command) (s : Machine) :
    outcome (perform Format.serialize env c) s = (c.run env s.files).outcome.map Product.returned ∧
      (after (perform Format.serialize env c) s).records = s.records ++ (c.run env s.files).records ∧
      (after (perform Format.serialize env c) s).printed = s.printed ∧
      ∀ p, (c.run env s.files).outcome = .ok p →
        (after (perform Format.serialize env c) s).files = p.files ∧ p.saved.isNone = c.out.isNone := by
  cases c with
  | exporting r =>
    have hperform : perform Format.serialize env (.exporting r) =
        (consult fun fs => fs.composeExport env r) >>= deliver r.out r.format :=
      congrArg (· >>= deliver r.out r.format) (composeExport_eq env r)
    rw [hperform]
    exact deliver_consult_eq (fun fs => fs.composeExport env r) r.out r.format s
  | mapping r =>
    have hperform : perform Format.serialize env (.mapping r) =
        (consult fun fs => fs.composeMap r) >>= deliver r.out r.format :=
      congrArg (· >>= deliver r.out r.format) (composeMap_eq r)
    rw [hperform]
    exact deliver_consult_eq (fun fs => fs.composeMap r) r.out r.format s

/-- The command line comes to the same when it is run at once: it has the same exit code, reports and prints the same, and
    leaves the same files if it comes out well. -/
theorem main_eq_run (env : Environment) {arguments : List String} {o : CommandLine.Options}
    (h : CommandLine.Options.parse arguments = .ok o) (s : Machine) :
    (outcome (main Format.serialize env o.command) s).toOption =
        (CommandLine.run env s.files arguments).ending.exitCode? ∧
      (after (main Format.serialize env o.command) s).printed =
        s.printed ++ (CommandLine.run env s.files arguments).ending.output ∧
      (after (main Format.serialize env o.command) s).records = s.records ++ (o.command.run env s.files).records ∧
      ∀ p, (CommandLine.run env s.files arguments).ending = .finished p →
        (after (main Format.serialize env o.command) s).files = p.files := by
  obtain ⟨houtcome, hrecords, hprinted, hfiles⟩ := perform_eq_run env o.command s
  cases hrun : (o.command.run env s.files).outcome with
  | error e =>
    rw [hrun] at houtcome
    obtain ⟨hcode, hafter⟩ := main_of_error houtcome
    rw [hcode, hafter, hprinted, hrecords, CommandLine.ending_of_error h hrun]
    by_cases hreported : CommandLine.isReported e = true
    · rw [if_pos hreported, if_pos hreported]
      refine ⟨rfl, (String.append_empty).symm, rfl, ?_⟩
      intro p hp
      cases hp
    · rw [if_neg hreported, if_neg hreported]
      refine ⟨rfl, (String.append_empty).symm, rfl, ?_⟩
      intro p hp
      cases hp
  | ok p =>
    rw [hrun] at houtcome
    obtain ⟨hleft, hsaved⟩ := hfiles p hrun
    obtain ⟨hcode, hafter⟩ := main_of_ok houtcome
    rw [hcode, hafter, CommandLine.ending_of_ok h hrun]
    dsimp only [CommandLine.Ending.output]
    rw [hsaved]
    by_cases hout : o.command.out.isNone = true
    · -- without a file the text is given back and printed
      have hreturned : p.returned = p.document.text := by
        unfold Product.returned
        rw [Option.isNone_iff_eq_none.mp (hsaved.trans hout)]
      rw [if_pos hout, if_pos hout, ← hreturned]
      refine ⟨rfl, ?_, hrecords, ?_⟩
      · show (after (perform Format.serialize env o.command) s).printed ++ p.returned = _
        rw [hprinted]
      · intro q hq
        cases hq
        exact hleft
    · rw [if_neg hout, if_neg hout]
      refine ⟨rfl, hprinted.trans (String.append_empty).symm, hrecords, ?_⟩
      intro q hq
      cases hq
      exact hleft

theorem compose_withOut (c : CommandLine.Command) (out : Option String) :
    compose serialize env (c.withOut out) = compose serialize env c := by
  cases c <;> rfl

/-- Without a file to write, a command gives its text back. -/
theorem perform_withOut_none {c : CommandLine.Command} {s : Machine} {d : Document}
    (h : outcome (compose serialize env c) s = .ok d) :
    outcome (perform serialize env (c.withOut none)) s = .ok d.text := by
  rw [← compose_withOut c none] at h
  rw [(perform_of_ok h).1, out_withOut]
  rfl

/-- **A failed command leaves everything alone.** Whatever the serializer and the machine are: if a command fails before its
    text is complete, then it fails in the same way with every file to write and with none, and the files are as they
    were; the program prints nothing then. If a command comes out well with a file to write, it gives a text back when
    there is none, and the file holds exactly that text. -/
theorem failed_command_changes_nothing (serialize : Serializer) (env : Environment) (c : CommandLine.Command)
    (s : Machine) :
    (∀ e, outcome (compose serialize env c) s = .error e → ∀ out,
      outcome (perform serialize env (c.withOut out)) s = .error e ∧
      (after (perform serialize env (c.withOut out)) s).files = s.files ∧
      (after (main serialize env (c.withOut out)) s).files = s.files ∧
      (after (main serialize env (c.withOut out)) s).printed = s.printed) ∧
    (∀ name result, outcome (perform serialize env (c.withOut (some name))) s = .ok result →
      ∃ text, outcome (perform serialize env (c.withOut none)) s = .ok text ∧
        (after (perform serialize env (c.withOut (some name))) s).files.readBytes (Location.parse name) =
          .ok text.toUTF8.toList) := by
  constructor
  · intro e he out
    obtain ⟨hfiles, hprinted⟩ := quiet_compose serialize env c s
    -- the text does not depend on where it is to go
    rw [← compose_withOut c out] at he hfiles hprinted
    obtain ⟨hfails, hafter⟩ := perform_of_error he
    obtain ⟨_, hmain⟩ := main_of_error hfails
    rw [hmain, hafter]
    exact ⟨hfails, hfiles, hfiles, hprinted⟩
  · intro name result hresult
    cases hd : outcome (compose serialize env c) s with
    | error e =>
      rw [← compose_withOut c (some name)] at hd
      rw [(perform_of_error hd).1] at hresult
      cases hresult
    | ok d =>
      refine ⟨d.text, perform_withOut_none hd, ?_⟩
      rw [← compose_withOut c (some name)] at hd
      obtain ⟨houtcome, hafter⟩ := perform_of_ok hd
      rw [out_withOut] at houtcome hafter
      obtain ⟨hdelivered, _, _, hfiles⟩ := deliver_eq (some name) (c.withOut (some name)).format d
        (after (compose serialize env (c.withOut (some name))) s)
      rw [houtcome, hdelivered] at hresult
      obtain ⟨p, hp, _⟩ := Outcome.map_eq_ok.mp hresult
      rw [hafter, (hfiles p hp).1]
      exact Files.readBytes_save (save_of_deliver hp)

end

/-- A machine with two files, both of which hold an empty object. -/
def ofEmptyObjects : Machine where
  files := ⟨[], [(["d"], .file [0x7b, 0x7d]), (["t"], .file [0x7b, 0x7d])]⟩

/-- A map run by one of them. -/
def mapOf (document : String) : CommandLine.Command :=
  .mapping { document, template := "t" }

theorem returned_mapOf : (((mapOf "d").withOut (some "o/g")).run ⟨"", none, []⟩
    ofEmptyObjects.files).outcome.map Product.returned = .ok "o/g" := by
  cbv

/-- A map run whose document is missing changes nothing. With its document there, it makes a directory and a file in it,
    which holds the text that it gives back otherwise. -/
theorem failed_command_changes_nothing_ofEmptyObjects :
    (outcome (perform Format.serialize ⟨"", none, []⟩ ((mapOf "n").withOut (some "o/g"))) ofEmptyObjects =
        .error (.file ⟨.missing, "n"⟩) ∧
      (after (perform Format.serialize ⟨"", none, []⟩ ((mapOf "n").withOut (some "o/g")))
        ofEmptyObjects).files = ofEmptyObjects.files ∧
      (after (main Format.serialize ⟨"", none, []⟩ ((mapOf "n").withOut none)) ofEmptyObjects).printed = "") ∧
    ∃ text, outcome (perform Format.serialize ⟨"", none, []⟩ ((mapOf "d").withOut none)) ofEmptyObjects = .ok text ∧
      (after (perform Format.serialize ⟨"", none, []⟩ ((mapOf "d").withOut (some "o/g")))
        ofEmptyObjects).files.readBytes (Location.parse "o/g") = .ok text.toUTF8.toList := by
  have hmissing : outcome (compose Format.serialize ⟨"", none, []⟩ (mapOf "n")) ofEmptyObjects =
      .error (.file ⟨.missing, "n"⟩) := by cbv
  have hthere : outcome (perform Format.serialize ⟨"", none, []⟩ ((mapOf "d").withOut (some "o/g")))
      ofEmptyObjects = .ok "o/g" :=
    (perform_eq_run ⟨"", none, []⟩ ((mapOf "d").withOut (some "o/g")) ofEmptyObjects).1.trans returned_mapOf
  obtain ⟨hfails, _⟩ := failed_command_changes_nothing Format.serialize ⟨"", none, []⟩ (mapOf "n") ofEmptyObjects
  obtain ⟨_, hgives⟩ := failed_command_changes_nothing Format.serialize ⟨"", none, []⟩ (mapOf "d") ofEmptyObjects
  obtain ⟨hfailed, hfiles, _, _⟩ := hfails _ hmissing (some "o/g")
  obtain ⟨_, _, _, hprinted⟩ := hfails _ hmissing none
  exact ⟨⟨hfailed, hfiles, hprinted⟩, hgives "o/g" "o/g" hthere⟩

end Session

end GraphLift
