import GraphLift.Files.Tree
import GraphLift.Proofs.Outcome

/-! # Reading back what was written

    A tree of files changes at one place when a file is written. Walking to that place comes by directories only, and these
    are still there afterwards.

    * **Places**: what is put somewhere is there (`contentAt?_put_self`), and directories elsewhere stay directories
      (`contentAt?_put_of_directory`).
    * **Walking** to a file passes directories, so that it leads to the same place when that file is replaced or made anew
      (`walk_put`).
    * **Reading** a file that was just written gives what was written (`readBytes_writeText`), also if its directory had to
      be made first (`readBytes_save`).
-/

namespace GraphLift

namespace Files

open Outcome

variable {fs : Files} {place : List String} {c : Content}

/-! ## Places -/

theorem contentAt?_put_self : (fs.put place c).contentAt? place = some c := by
  have hnone : (fs.entries.filter (·.1 != place)).find? (·.1 == place) = none := by
    rw [List.find?_eq_none]
    intro e he
    have hne := (List.mem_filter.mp he).2
    simpa using hne
  unfold contentAt? put
  rw [List.find?_append, hnone]
  simp

/-- What was a directory is one when something else is put elsewhere. -/
theorem contentAt?_put_of_directory {p : List String} (hne : p ≠ place) (h : fs.contentAt? p = some .directory) :
    (fs.put place c).contentAt? p = some .directory := by
  have hkept : (fs.entries.filter (·.1 != place)).find? (·.1 == p) = fs.entries.find? (·.1 == p) := by
    rw [List.find?_filter]
    congr 1
    funext e
    by_cases he : e.1 = p
    · simp [he, hne]
    · simp [he]
  have hnew : [(place, c)].find? (·.1 == p) = none := by simp [Ne.symm hne]
  unfold contentAt? at h ⊢
  unfold put
  rw [List.find?_append, hkept, hnew, Option.or_none]
  cases hfound : fs.entries.find? (·.1 == p) with
  | some e =>
    rw [hfound] at h
    exact h
  | none =>
    rw [hfound] at h
    dsimp only at h ⊢
    have hholds : (p.isEmpty || p.isPrefixOf fs.here || fs.entries.any fun e => p.isPrefixOf e.1) = true := by
      by_contra hnot
      rw [if_neg hnot] at h
      cases h
    rw [if_pos]
    rw [Bool.or_eq_true] at hholds ⊢
    refine hholds.imp id fun hany => ?_
    -- an entry below the directory is still there, or the new one is in its place
    obtain ⟨e, he, hbelow⟩ := List.any_eq_true.mp hany
    by_cases hplace : e.1 = place
    · refine List.any_eq_true.mpr ⟨(place, c), by simp, ?_⟩
      rw [← hplace]
      exact hbelow
    · exact List.any_eq_true.mpr ⟨e, List.mem_append_left _ (List.mem_filter.mpr ⟨he, by simpa using hplace⟩), hbelow⟩

/-- A directory is within a directory. -/
theorem contentAt?_dropLast {p : List String} (h : fs.contentAt? p = some .directory) :
    ∃ c, fs.contentAt? p.dropLast = some c := by
  have hfront : p.dropLast <+: p := List.dropLast_prefix p
  have hholds : (p.dropLast.isEmpty || p.dropLast.isPrefixOf fs.here ||
      fs.entries.any fun e => p.dropLast.isPrefixOf e.1) = true := by
    simp only [Bool.or_eq_true, List.any_eq_true, List.isPrefixOf_iff_prefix, List.isEmpty_iff]
    unfold contentAt? at h
    cases hfound : fs.entries.find? (·.1 == p) with
    | some e =>
      have hmem := List.mem_of_find?_eq_some hfound
      have heq : e.1 = p := by simpa using List.find?_some hfound
      exact .inr ⟨e, hmem, heq ▸ hfront⟩
    | none =>
      rw [hfound] at h
      dsimp only at h
      split at h
      · next hcond =>
        simp only [Bool.or_eq_true, List.any_eq_true, List.isPrefixOf_iff_prefix, List.isEmpty_iff] at hcond
        rcases hcond with (hempty | hhere) | ⟨e, he, hbelow⟩
        · exact .inl (.inl (by rw [hempty, List.dropLast_nil]))
        · exact .inl (.inr (hfront.trans hhere))
        · exact .inr ⟨e, he, hfront.trans hbelow⟩
      · cases h
  unfold contentAt?
  split
  · exact ⟨_, rfl⟩
  · exact ⟨_, if_pos hholds⟩

/-! ## Walking -/

theorem walk_nil_eq_ok {start p : List String} {d : Content} :
    fs.walk start [] = .ok (p, d) ↔ start = p ∧ fs.contentAt? start = some d := by
  unfold walk
  cases fs.contentAt? start with
  | none => simp
  | some c => simp

theorem walk_nil_eq_missing {start : List String} :
    fs.walk start [] = .error .missing ↔ fs.contentAt? start = none := by
  unfold walk
  cases fs.contentAt? start with
  | none => simp
  | some c => simp

/-- A step leads on from a directory. -/
theorem walk_cons {start : List String} (h : fs.contentAt? start = some .directory) (part : String)
    (rest : List String) :
    fs.walk start (part :: rest) = fs.walk (if part = ".." then start.dropLast else start ++ [part]) rest := by
  rw [walk, h]

theorem walk_cons_eq_ok {start : List String} {part : String} {rest : List String} {r : List String × Content}
    (h : fs.walk start (part :: rest) = .ok r) :
    fs.contentAt? start = some .directory ∧
      fs.walk (if part = ".." then start.dropLast else start ++ [part]) rest = .ok r := by
  rw [walk] at h
  split at h
  · cases h
  · cases h
  · next hdir => exact ⟨hdir, h⟩

/-- What is at the end of a way is at the place that it leads to. -/
theorem contentAt?_of_walk {start parts p : List String} {d : Content} (h : fs.walk start parts = .ok (p, d)) :
    fs.contentAt? p = some d := by
  induction parts generalizing start with
  | nil =>
    obtain ⟨rfl, hstart⟩ := walk_nil_eq_ok.mp h
    exact hstart
  | cons part rest ih => exact ih (walk_cons_eq_ok h).2

/-- A way goes on from the directory that its front leads to. -/
theorem walk_append {start front rest p : List String} (h : fs.walk start front = .ok (p, .directory)) :
    fs.walk start (front ++ rest) = fs.walk p rest := by
  induction front generalizing start with
  | nil =>
    obtain ⟨rfl, _⟩ := walk_nil_eq_ok.mp h
    rfl
  | cons part front ih =>
    obtain ⟨hstart, h⟩ := walk_cons_eq_ok h
    rw [List.cons_append, walk_cons hstart, ih h]

/-- A way leads to the same place when something is put where no directory is. What is at its end then may be new. -/
theorem walk_put {start parts p : List String} {d d' : Content} (hplace : fs.contentAt? place ≠ some .directory)
    (h : fs.walk start parts = .ok (p, d)) (hend : (fs.put place c).contentAt? p = some d') :
    (fs.put place c).walk start parts = .ok (p, d') := by
  induction parts generalizing start with
  | nil =>
    obtain ⟨rfl, _⟩ := walk_nil_eq_ok.mp h
    exact walk_nil_eq_ok.mpr ⟨rfl, hend⟩
  | cons part rest ih =>
    -- the way passes directories only, which stay as they are
    obtain ⟨hstart, h⟩ := walk_cons_eq_ok h
    have hne : start ≠ place := by
      intro heq
      rw [heq] at hstart
      exact hplace hstart
    rw [walk_cons (contentAt?_put_of_directory hne hstart)]
    exact ih h

/-! ## Files -/

/-- A name in a directory, where nothing is found, is no way up. -/
theorem contentAt?_of_missing {start front p : List String} {name : String}
    (h : fs.walk start front = .ok (p, .directory)) (hmissing : fs.walk start (front ++ [name]) = .error .missing) :
    name ≠ ".." ∧ fs.contentAt? (p ++ [name]) = none := by
  have hdir := contentAt?_of_walk h
  rw [walk_append h, walk_cons hdir, walk_nil_eq_missing] at hmissing
  have hname : name ≠ ".." := by
    intro heq
    obtain ⟨d, hd⟩ := contentAt?_dropLast hdir
    rw [if_pos heq, hd] at hmissing
    cases hmissing
  rw [if_neg hname] at hmissing
  exact ⟨hname, hmissing⟩

/-- A file that was just written holds the text, no more and no less. -/
theorem readBytes_writeText {fs' : Files} {l : Location} {s : String} (hnull : l.hasNull = false)
    (h : fs.writeText l s = .ok fs') : fs'.readBytes l = .ok s.toUTF8.toList := by
  have hreach : ∃ place, fs'.reach l = .ok (place, .file s.toUTF8.toList) := by
    unfold writeText at h
    split at h
    · next place bytes hfile =>
      -- a file that was there before is replaced
      cases h
      have hplace : fs.contentAt? place ≠ some .directory := by
        rw [contentAt?_of_walk hfile]
        simp
      exact ⟨place, walk_put hplace hfile contentAt?_put_self⟩
    · cases h
    · next hmissing =>
      split at h
      · next place name hparent hname =>
        cases h
        have hparts : l.parts = l.parts.dropLast ++ [name] := (List.dropLast_append_getLast? name hname).symm
        unfold reach at hmissing hparent ⊢
        rw [hparts] at hmissing
        obtain ⟨hup, hnone⟩ := contentAt?_of_missing hparent hmissing
        have hplace : fs.contentAt? (place ++ [name]) ≠ some .directory := by
          rw [hnone]
          simp
        -- the directory is where it was, and the file is in it
        have hdir := contentAt?_of_walk hparent
        have hne : place ≠ place ++ [name] := by simp
        have hstays := contentAt?_put_of_directory (c := .file s.toUTF8.toList) hne hdir
        have hfront := walk_put (c := .file s.toUTF8.toList) hplace hparent hstays
        have hlast : (fs.put (place ++ [name]) (.file s.toUTF8.toList)).walk place [name] =
            .ok (place ++ [name], .file s.toUTF8.toList) := by
          rw [walk_cons hstays, if_neg hup]
          exact walk_nil_eq_ok.mpr ⟨rfl, contentAt?_put_self⟩
        refine ⟨place ++ [name], ?_⟩
        rw [hparts]
        exact (walk_append hfront).trans hlast
      · cases h
    · cases h
  obtain ⟨place, hreach⟩ := hreach
  unfold readBytes
  rw [hnull, hreach]
  rfl

/-- A file that was just saved holds the text, whatever directories were made for it. -/
theorem readBytes_save {fs' : Files} {l : Location} {s : String} (h : fs.save l s = .ok fs') :
    fs'.readBytes l = .ok s.toUTF8.toList := by
  rw [save_eq] at h
  obtain ⟨made, _, hfill⟩ := bind_eq_ok.mp h
  unfold fill at hfill
  split at hfill
  · cases hfill
  · next hnull =>
    cases hwrite : made.writeText l s with
    | error e =>
      rw [hwrite] at hfill
      cases hfill
    | ok written =>
      rw [hwrite] at hfill
      cases hfill
      exact readBytes_writeText (by simpa using hnull) hwrite

end Files

end GraphLift
