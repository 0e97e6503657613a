import GraphLift.Proofs.Export.Inquiry
import GraphLift.Proofs.Export.Order

/-! # Formats that are switched off

    A root configuration has a flag for each format, and may write it several times under keys that differ in letter case.
    An export looks at the flag of its format as soon as the configuration is read.

    * **Flags** (`FormatFlags`): an entry sets the flag of its own format and no other.
    * **The last entry** under a name decides (`RootConfig.get_flagsOf`), whatever was written before it.
    * **Unknown names** change nothing, and each is reported once (`RootConfig.records_readFlags`).
    * **An export** in a format that is switched off ends there (`Session.perform_unavailable`): all that was asked for is
      the configuration, and all that is left behind is what was reported while it was read.
-/

namespace GraphLift

open Outcome Stateful

/-! ## Flags -/

theorem Format.named?_eq_some {name : String} {format : Format} :
    named? name = some format ↔ (name, format) ∈ all := by
  constructor
  · intro h
    obtain ⟨p, hp, rfl⟩ := Option.map_eq_some_iff.mp h
    have hname : p.1 = name := by simpa using List.find?_some hp
    rw [← hname]
    exact List.mem_of_find?_eq_some hp
  · intro h
    simp only [all, List.mem_cons, Prod.mk.injEq, List.not_mem_nil, or_false] at h
    rcases h with ⟨rfl, rfl⟩ | ⟨rfl, rfl⟩ | ⟨rfl, rfl⟩
    · rfl
    · rfl
    · rfl

/-- A format has one name. -/
theorem Format.name_unique {name name' : String} {format : Format} (h : (name, format) ∈ all)
    (h' : (name', format) ∈ all) : name = name' := by
  simp only [all, List.mem_cons, Prod.mk.injEq, List.not_mem_nil, or_false] at h h'
  cases format <;> simp_all

@[simp] theorem FormatFlags.get_set_self (flags : FormatFlags) (format : Format) (on : Bool) :
    (flags.set format on).get format = on := by
  cases format <;> rfl

theorem FormatFlags.get_set_of_ne (flags : FormatFlags) {format other : Format} (h : other ≠ format) (on : Bool) :
    (flags.set other on).get format = flags.get format := by
  cases format <;> cases other <;> first | rfl | exact absurd rfl h

theorem FormatFlags.isAvailable_of_named (flags : FormatFlags) {name : String} {format : Format}
    (h : (name, format) ∈ Format.all) : flags.isAvailable name = flags.get format := by
  unfold isAvailable
  rw [Format.named?_eq_some.mpr h]

namespace RootConfig

/-- An entry of a table of flags. -/
abbrev FlagEntry := String × Json

/-- The entry names a format in some letter case. -/
def isKnown (e : FlagEntry) : Bool :=
  (Format.named? (Text.lowerCase e.1)).isSome

/-- The flags that a table writes. -/
def flagsOf (entries : List FlagEntry) : FormatFlags :=
  entries.foldl withFlag {}

/-- What is reported of the entries that name no format. -/
def unknownRecords (entries : List FlagEntry) : List Record :=
  (entries.filter (!isKnown ·)).map fun e => ⟨.formatUnknown e.1, false⟩

theorem records_readFlag (flags : FormatFlags) (e : FlagEntry) :
    (readFlag flags e).records = unknownRecords [e] := by
  unfold readFlag unknownRecords isKnown
  cases hname : Format.named? (Text.lowerCase e.1) with
  | some format => simp [hname]
  | none =>
    simp [hname]
    rfl

/-- Each entry that names no format is reported once, in order, and nothing else is. -/
theorem records_readFlags (entries : List FlagEntry) (flags : FormatFlags) :
    (entries.foldlM readFlag flags).records = unknownRecords entries := by
  induction entries generalizing flags with
  | nil => rfl
  | cons e rest ih =>
    have hsplit : unknownRecords (e :: rest) = unknownRecords [e] ++ unknownRecords rest := by
      unfold unknownRecords
      rw [← List.map_append, ← List.filter_append]
      rfl
    rw [List.foldlM_cons, Traced.records_bind_of_ok (outcome_readFlag flags e), ih, records_readFlag, hsplit]

/-! ## The last entry under a name -/

/-- The table has the value under the name, and no later entry is under it. The letter case of keys does not matter. -/
def LastUnder (entries : List FlagEntry) (name : String) (v : Json) : Prop :=
  ∃ before key after, entries = before ++ (key, v) :: after ∧ Text.lowerCase key = name ∧
    ∀ e ∈ after, Text.lowerCase e.1 ≠ name

/-- There is no entry under a name, or there is a last one. -/
theorem none_or_lastUnder (entries : List FlagEntry) (name : String) :
    (∀ e ∈ entries, Text.lowerCase e.1 ≠ name) ∨ ∃ v, LastUnder entries name v := by
  induction entries with
  | nil => exact .inl fun e he => absurd he List.not_mem_nil
  | cons e rest ih =>
    rcases ih with hnone | ⟨v, before, key, after, rfl, hkey, hafter⟩
    · by_cases hname : Text.lowerCase e.1 = name
      · exact .inr ⟨e.2, [], e.1, rest, rfl, hname, hnone⟩
      · exact .inl (List.forall_mem_cons.mpr ⟨hname, hnone⟩)
    · exact .inr ⟨v, e :: before, key, after, rfl, hkey, hafter⟩

section

variable {name : String} {format : Format} (hnamed : (name, format) ∈ Format.all)

include hnamed

theorem get_withFlag_self {e : FlagEntry} (h : Text.lowerCase e.1 = name) (flags : FormatFlags) :
    (withFlag flags e).get format = e.2.toFlag true := by
  have hformat : Format.named? (Text.lowerCase e.1) = some format := by rw [h, Format.named?_eq_some.mpr hnamed]
  unfold withFlag
  rw [hformat]
  exact FormatFlags.get_set_self flags format _

theorem get_withFlag_of_ne {e : FlagEntry} (h : Text.lowerCase e.1 ≠ name) (flags : FormatFlags) :
    (withFlag flags e).get format = flags.get format := by
  unfold withFlag
  split
  · next other hother =>
    refine FormatFlags.get_set_of_ne flags ?_ _
    rintro rfl
    exact h (Format.name_unique (Format.named?_eq_some.mp hother) hnamed)
  · rfl

/-- Entries under other names leave a flag as it is. -/
theorem get_foldl_of_ne {entries : List FlagEntry} (h : ∀ e ∈ entries, Text.lowerCase e.1 ≠ name)
    (flags : FormatFlags) : (entries.foldl withFlag flags).get format = flags.get format := by
  induction entries generalizing flags with
  | nil => rfl
  | cons e rest ih =>
    obtain ⟨he, hrest⟩ := List.forall_mem_cons.mp h
    rw [List.foldl_cons, ih hrest, get_withFlag_of_ne hnamed he]

/-- A flag without an entry is on, and otherwise the last entry decides. -/
theorem get_flagsOf (entries : List FlagEntry) :
    (flagsOf entries).get format = true ↔
      (∀ e ∈ entries, Text.lowerCase e.1 ≠ name) ∨ ∃ v, LastUnder entries name v ∧ v.toFlag true = true := by
  have hlast : ∀ {v}, LastUnder entries name v → (flagsOf entries).get format = v.toFlag true := by
    rintro v ⟨before, key, after, rfl, hkey, hafter⟩
    unfold flagsOf
    rw [List.foldl_append, List.foldl_cons, get_foldl_of_ne hnamed hafter, get_withFlag_self (e := (key, v)) hnamed hkey]
  constructor
  · intro hon
    rcases none_or_lastUnder entries name with hnone | ⟨v, hv⟩
    · exact .inl hnone
    · exact .inr ⟨v, hv, (hlast hv).symm.trans hon⟩
  · rintro (hnone | ⟨v, hv, hon⟩)
    · unfold flagsOf
      rw [get_foldl_of_ne hnamed hnone]
      cases format <;> rfl
    · exact (hlast hv).trans hon

end

/-- Entries that name no format might as well be left out. -/
theorem foldl_filter_isKnown (entries : List FlagEntry) (flags : FormatFlags) :
    (entries.filter isKnown).foldl withFlag flags = entries.foldl withFlag flags := by
  induction entries generalizing flags with
  | nil => rfl
  | cons e rest ih =>
    cases hknown : isKnown e with
    | true => rw [List.filter_cons_of_pos hknown, List.foldl_cons, List.foldl_cons, ih]
    | false =>
      have hsame : withFlag flags e = flags := by
        unfold isKnown at hknown
        unfold withFlag
        rw [Option.isSome_eq_false_iff.mp hknown |> Option.isNone_iff_eq_none.mp]
      rw [List.filter_cons_of_neg (by simp [hknown]), List.foldl_cons, hsame, ih]

/-! ## Reading the flags of a configuration -/

/-- The entries of a table that counts as nothing or is an object. -/
def TableOf (v : Json) (entries : List FlagEntry) : Prop :=
  v.isTruthy = false ∧ entries = [] ∨ v = .object entries

theorem tableOf_of_tableMember {members entries : List (String × Json)} {name : String}
    (h : tableMember members name = .ok entries) : TableOf (Json.field members name) entries := by
  unfold tableMember at h
  dsimp only at h
  split at h
  · next hnothing =>
    cases h
    exact .inl ⟨by simpa using hnothing, rfl⟩
  · split at h
    · next heq =>
      cases h
      exact .inr heq
    · cases h

/-- A part without reports that comes out well can be left out, with its value in place. -/
theorem of_lift_bind {α β : Type} {x : Except Failure α} {f : α → Traced β} {b : β}
    (h : ((liftM x : Traced α) >>= f).outcome = .ok b) : ∃ a, x = .ok a ∧ (liftM x : Traced α) >>= f = f a := by
  rw [Traced.outcome_bind] at h
  obtain ⟨a, ha, _⟩ := bind_eq_ok.mp h
  have hx : x = .ok a := ha
  have hpure : (liftM (.ok a : Except Failure α) : Traced α) = pure a := rfl
  refine ⟨a, hx, ?_⟩
  rw [hx, hpure, pure_bind]

/-- What a configuration that is read has for flags, and what is reported. -/
theorem flags_of_read {members : List (String × Json)} {root : RootConfig} (h : (read members).outcome = .ok root) :
    ∃ entries, TableOf (Json.field members "formats") entries ∧ root.formats = flagsOf entries ∧
      (read members).records = unknownRecords entries := by
  unfold read at h ⊢
  -- every part before the flags comes out well, and none of them reports anything
  obtain ⟨prefixes, _, hrest⟩ := of_lift_bind h
  rw [hrest] at h ⊢
  obtain ⟨values, _, hrest⟩ := of_lift_bind h
  rw [hrest] at h ⊢
  obtain ⟨elements, _, hrest⟩ := of_lift_bind h
  rw [hrest] at h ⊢
  dsimp only at h ⊢
  by_cases hnodup : (elements.map (·.id)).Nodup
  · rw [if_neg (not_not.mpr hnodup)] at h ⊢
    obtain ⟨values', _, hrest⟩ := of_lift_bind h
    rw [hrest] at h ⊢
    obtain ⟨relations, _, hrest⟩ := of_lift_bind h
    rw [hrest] at h ⊢
    obtain ⟨entries, hentries, hrest⟩ := of_lift_bind h
    rw [hrest] at h ⊢
    have hflags := outcome_readFlags entries {}
    rw [Traced.outcome_bind, hflags] at h
    cases h
    refine ⟨entries, tableOf_of_tableMember hentries, rfl, ?_⟩
    rw [Traced.records_bind_of_ok hflags, records_readFlags, Traced.records_pure, List.append_nil]
  · rw [if_pos hnodup, Traced.outcome_bind] at h
    cases h

end RootConfig

/-! ## Exports -/

namespace Session

variable {members : List (String × Json)} {root : RootConfig}

/-- An export in a format that its configuration switches off asks for the configuration only and fails. What it leaves
    behind is what was reported while the configuration was read. -/
theorem perform_unavailable [Library] (hread : (RootConfig.read members).outcome = .ok root) (serialize : Serializer)
    {env : Environment} {r : ExportRequest} {l : Location} {s : Machine}
    (hlocation : Files.configLocation env r.config = .ok l) (hmembers : s.files.readMembers r.encoding l = .ok members)
    (hformat : root.formats.isAvailable r.format = false) :
    outcome (perform serialize env (.exporting r)) s = .error (.config (.formatDisabled r.format)) ∧
      after (perform serialize env (.exporting r)) s =
        { s with records := s.records ++ (RootConfig.read members).records } ∧
      (Inquiry.composeExport serialize s.files.here env r).asked s.files = [l] := by
  obtain ⟨houtcome, hrecords, hasked⟩ := Inquiry.asked_root s.files r.encoding hlocation hmembers hread
  -- the flag is looked at next, and the inquiry is over
  have hrun : (Inquiry.composeExport serialize s.files.here env r).run s.files =
      ⟨(RootConfig.read members).records, .error (.config (.formatDisabled r.format))⟩ := by
    unfold Inquiry.composeExport
    rw [Inquiry.run_bind]
    show Traced.bind _ _ = _
    unfold Traced.bind
    rw [houtcome, hrecords]
    simp [hformat]
    rfl
  have hcompose : outcome (composeExport serialize env r) s = .error (.config (.formatDisabled r.format)) ∧
      after (composeExport serialize env r) s = { s with records := s.records ++ (RootConfig.read members).records } := by
    rw [composeExport_eq_inquiry, outcome_consult, after_consult, hrun]
    exact ⟨rfl, rfl⟩
  obtain ⟨houtcome', hafter⟩ := perform_of_error (c := .exporting r) hcompose.1
  refine ⟨houtcome', hafter.trans hcompose.2, ?_⟩
  unfold Inquiry.composeExport
  rw [Inquiry.asked_bind_of_ok houtcome, hasked]
  simp [hformat]

/-- The flags of a root configuration: a format is available unless the last entry under its name, in any letter case, says
    otherwise; entries under other names do not matter, and each of them is reported as a warning, once. An export in a
    format that is not available fails without asking for more than the configuration, whatever is in the other files,
    and changes nothing. -/
theorem export_formats [Library] (hread : (RootConfig.read members).outcome = .ok root) :
    ∃ entries, RootConfig.TableOf (Json.field members "formats") entries ∧
      (∀ name format, (name, format) ∈ Format.all →
        (root.formats.isAvailable name = true ↔
          (∀ e ∈ entries, Text.lowerCase e.1 ≠ name) ∨
            ∃ v, RootConfig.LastUnder entries name v ∧ v.toFlag true = true)) ∧
      ((entries.filter RootConfig.isKnown).foldlM RootConfig.readFlag {}).outcome = .ok root.formats ∧
      (RootConfig.read members).records =
        (entries.filter (!RootConfig.isKnown ·)).map (fun e => ⟨.formatUnknown e.1, false⟩) ∧
      (∀ record ∈ (RootConfig.read members).records, record.event.severity = .warning) ∧
      ∀ (serialize : Serializer) (env : Environment) (r : ExportRequest) (l : Location) (s : Machine),
        Files.configLocation env r.config = .ok l → s.files.readMembers r.encoding l = .ok members →
        root.formats.isAvailable r.format = false →
          outcome (perform serialize env (.exporting r)) s = .error (.config (.formatDisabled r.format)) ∧
          after (perform serialize env (.exporting r)) s =
            { s with records := s.records ++ (RootConfig.read members).records } ∧
          (Inquiry.composeExport serialize s.files.here env r).asked s.files = [l] := by
  obtain ⟨entries, htable, hflags, hrecords⟩ := RootConfig.flags_of_read hread
  refine ⟨entries, htable, ?_, ?_, hrecords, ?_, ?_⟩
  · intro name format hnamed
    rw [FormatFlags.isAvailable_of_named _ hnamed, hflags, RootConfig.get_flagsOf hnamed]
  · rw [RootConfig.outcome_readFlags, RootConfig.foldl_filter_isKnown, hflags, RootConfig.flagsOf]
  · intro record hrecord
    rw [hrecords] at hrecord
    obtain ⟨e, _, rfl⟩ := List.mem_map.mp hrecord
    rfl
  · intro serialize env r l s hlocation hmembers hformat
    exact perform_unavailable hread serialize hlocation hmembers hformat

/-- A root configuration that writes two flags twice, and a flag of no format. -/
def writtenTwice : String :=
  "\x7b\"formats\":\x7b\"Turtle\":false,\"RdfXml\":true,\"rdfxml\":\"no\",\"TURTLE\":null,\"ods\":true\x7d\x7d"

def writtenTwiceMembers : List (String × Json) := [("formats", .object [
  ("Turtle", .bool false), ("RdfXml", .bool true), ("rdfxml", .text "no"), ("TURTLE", .null), ("ods", .bool true)])]

theorem read_writtenTwice : (RootConfig.read writtenTwiceMembers).outcome =
    .ok ⟨false, [], [], [], { rdfXml := false }⟩ := by
  rfl

/-- There is nothing but the configuration, not even a document. -/
def configOnly : Machine := { files := ⟨[], [(["c"], .file (Export.asciiBytes writtenTwice))]⟩ }

theorem readMembers_configOnly :
    configOnly.files.readMembers "utf-8" (Location.parse "c") = .ok writtenTwiceMembers := by
  have hjson : configOnly.files.readJson "utf-8" (Location.parse "c") = .ok (.object writtenTwiceMembers) :=
    Export.readJson_of_ascii rfl rfl (by cbv)
  exact Files.readMembers_of_readJson hjson

/-- Turtle is available, since its last flag is null; RDF/XML is not, and an export in it does not find out that there is
    no document. -/
theorem export_formats_ofWrittenTwice :
    (RootConfig.read writtenTwiceMembers).outcome = .ok ⟨false, [], [], [], { rdfXml := false }⟩ ∧
      (RootConfig.read writtenTwiceMembers).records = [⟨.formatUnknown "ods", false⟩] ∧
      RootConfig.LastUnder [("Turtle", .bool false), ("RdfXml", .bool true), ("rdfxml", .text "no"), ("TURTLE", .null),
        ("ods", .bool true)] "turtle" .null ∧
      ({ rdfXml := false } : FormatFlags).isAvailable "turtle" = true ∧
      outcome (perform Format.serialize ⟨"", none, []⟩
        (.exporting { document := "d", config := some "c", format := "rdfxml" })) configOnly =
        .error (.config (.formatDisabled "rdfxml")) ∧
      (Inquiry.composeExport Format.serialize [] ⟨"", none, []⟩
        { document := "d", config := some "c", format := "rdfxml" }).asked configOnly.files = [Location.parse "c"] := by
  obtain ⟨entries, htable, havailable, _, hrecords, _, hexport⟩ := export_formats read_writtenTwice
  have hentries : entries = [("Turtle", .bool false), ("RdfXml", .bool true), ("rdfxml", .text "no"),
      ("TURTLE", .null), ("ods", .bool true)] := by
    rcases htable with ⟨hnothing, _⟩ | hobject
    · cases hnothing
    · cases hobject
      rfl
  subst hentries
  have hlast : RootConfig.LastUnder [("Turtle", .bool false), ("RdfXml", .bool true), ("rdfxml", .text "no"),
      ("TURTLE", .null), ("ods", .bool true)] "turtle" .null :=
    ⟨[("Turtle", .bool false), ("RdfXml", .bool true), ("rdfxml", .text "no")], "TURTLE", [("ods", .bool true)], rfl,
      by decide +kernel, by
        intro e he
        cases List.mem_singleton.mp he
        decide +kernel⟩
  obtain ⟨houtcome, _, hasked⟩ := hexport Format.serialize ⟨"", none, []⟩
    { document := "d", config := some "c", format := "rdfxml" } (Location.parse "c") configOnly rfl
    readMembers_configOnly rfl
  refine ⟨read_writtenTwice, ?_, hlast, ?_, houtcome, hasked⟩
  · rw [hrecords]
    rfl
  · exact (havailable "turtle" .turtle (by decide)).mpr (.inr ⟨.null, hlast, rfl⟩)

end Session

end GraphLift
