import GraphLift.Library.Builtin
import GraphLift.Proofs.Pattern.Markers
import Mathlib.Data.List.TakeWhile

/-! # How a pattern falls into pieces

    Reading a pattern loses nothing, and there is one way only to cut it that keeps to the rules. So the pieces of a
    pattern are known from the text alone, without the scan that finds them.

    * **Rules** (`Pattern.WellCut`): texts are as long as they can be, a marker ends at its first closing brace, and the
      first opening with a closing brace behind it begins a marker.
    * **Reading** (`Pattern.reading_induction`) meets the end, an opening that nothing closes, a marker, or a character
      of plain text.
    * **Cutting** (`Pattern.pieces_written`): what is well cut is read back piece by piece.
    * **Result** (`Pattern.pieces_unique`): the pieces of a pattern are its one way to be well cut. If nothing is bound,
      the pattern comes out of its expansion as it was, unless one of its markers is a number that is too long.
-/

namespace GraphLift

namespace Pattern

/-! ## Openings -/

/-- The characters that open a marker. -/
def opening : List Char := ['$', '\x7b']

theorem not_opening_isInfix_nil : ¬ opening <:+: [] := by decide

theorem not_opening_isInfix_singleton (c : Char) : ¬ opening <:+: [c] := by
  intro h
  exact absurd h.length_le (by simp [opening])

theorem opening_isPrefix_iff {c : Char} {r : List Char} :
    opening <+: c :: r ↔ c = '$' ∧ r.head? = some '\x7b' := by
  cases r with
  | nil => simp [opening]
  | cons d r => simp [opening, List.cons_prefix_cons, eq_comm]

/-- An opening stands across the border of two texts: the first one ends with its dollar sign, and the second one starts
    with its brace. -/
def OpensAcross (cs t : List Char) : Prop :=
  cs.getLast? = some '$' ∧ t.head? = some '\x7b'

instance (cs t : List Char) : Decidable (OpensAcross cs t) :=
  inferInstanceAs (Decidable (_ ∧ _))

/-- What stands at the border does not depend on the front of the first text. -/
theorem OpensAcross.append_left {cs t : List Char} (h : OpensAcross cs t) (front : List Char) :
    OpensAcross (front ++ cs) t := by
  obtain ⟨hlast, hhead⟩ := h
  exact ⟨by rw [List.getLast?_append, hlast]; rfl, hhead⟩

theorem OpensAcross.cons {cs t : List Char} (h : OpensAcross cs t) (c : Char) : OpensAcross (c :: cs) t :=
  h.append_left [c]

theorem not_opening_isPrefix_append {c : Char} {r t : List Char} (h : ¬ opening <+: c :: r)
    (hborder : ¬ OpensAcross (c :: r) t) : ¬ opening <+: c :: (r ++ t) := by
  rw [opening_isPrefix_iff] at h ⊢
  cases r with
  | nil => simpa [OpensAcross] using hborder
  | cons d r => simpa using h

/-- Where there are openings, there is a first one. -/
theorem exists_first_opening {cs : List Char} (h : opening <:+: cs) :
    ∃ before after, cs = before ++ opening ++ after ∧ ¬ opening <:+: before := by
  induction cs with
  | nil => exact absurd h not_opening_isInfix_nil
  | cons c r ih =>
    by_cases hhead : opening <+: c :: r
    · obtain ⟨after, hafter⟩ := hhead
      exact ⟨[], after, hafter.symm, not_opening_isInfix_nil⟩
    · have hrest : opening <:+: r := (List.infix_cons_iff.mp h).resolve_left hhead
      obtain ⟨before, after, rfl, hbefore⟩ := ih hrest
      refine ⟨c :: before, after, rfl, fun hwithin => ?_⟩
      rcases List.infix_cons_iff.mp hwithin with hstart | hwithin
      · exact hhead (hstart.trans (by simp))
      · exact hbefore hwithin

/-! ## Rules -/

/-- The pattern that pieces make up. -/
def written (ps : List Piece) : String :=
  String.join (ps.map Piece.source)

@[simp] theorem written_nil : written [] = "" := rfl

@[simp] theorem written_cons (p : Piece) (ps : List Piece) : written (p :: ps) = p.source ++ written ps := by
  simp [written]

/-- There is no closing brace behind the first opening of the text. -/
def IsUnclosed (s : String) : Prop :=
  ∀ before after, s.toList = before ++ opening ++ after → ¬ opening <:+: before → '\x7d' ∉ after

/-- The pieces keep to the rules by which a pattern is cut. -/
structure WellCut (ps : List Piece) : Prop where
  nonempty : ∀ s, .text s ∈ ps → s ≠ ""
  /-- No two texts stand side by side. -/
  apart : ∀ s u, ¬ [.text s, .text u] <:+: ps
  /-- No marker holds a closing brace. -/
  closed : ∀ body, .marker body ∈ ps → '\x7d' ∉ body.toList
  /-- A text with a marker behind it opens none. -/
  unopened : ∀ s body, [.text s, .marker body] <:+: ps → ¬ opening <:+: s.toList
  /-- What the last text opens, it does not close. -/
  unclosed : ∀ s, ps.getLast? = some (.text s) → IsUnclosed s

theorem wellCut_nil : WellCut [] :=
  ⟨by simp, by simp, by simp, by simp, by simp⟩

variable {ps : List Piece}

/-- The rules for a marker at the head. -/
theorem wellCut_marker_cons_iff {body : String} : WellCut (.marker body :: ps) ↔ '\x7d' ∉ body.toList ∧ WellCut ps := by
  constructor
  · intro h
    refine ⟨h.closed body List.mem_cons_self, ?_, ?_, ?_, ?_, ?_⟩
    · exact fun s hs => h.nonempty s (List.mem_cons_of_mem _ hs)
    · exact fun s u hs => h.apart s u (List.infix_cons hs)
    · exact fun body' hb => h.closed body' (List.mem_cons_of_mem _ hb)
    · exact fun s body' hs => h.unopened s body' (List.infix_cons hs)
    · intro s hs
      exact h.unclosed s (by rw [List.getLast?_cons, hs]; rfl)
  · rintro ⟨hbody, h⟩
    refine ⟨?_, ?_, ?_, ?_, ?_⟩
    · intro s hs
      exact h.nonempty s (by simpa using hs)
    · intro s u hs
      exact h.apart s u (by simpa [List.infix_cons_iff, List.cons_prefix_cons] using hs)
    · intro body' hb
      rcases List.mem_cons.mp hb with heq | hb
      · cases heq
        exact hbody
      · exact h.closed body' hb
    · intro s body' hs
      exact h.unopened s body' (by simpa [List.infix_cons_iff, List.cons_prefix_cons] using hs)
    · intro s hs
      rw [List.getLast?_cons] at hs
      cases hlast : ps.getLast? with
      | none => simp [hlast] at hs
      | some p => exact h.unclosed s (by simpa [hlast] using hs)

/-- The rules for a text at the head: behind it there is nothing or a marker. -/
theorem wellCut_text_cons_iff {s : String} : WellCut (.text s :: ps) ↔
    s ≠ "" ∧ WellCut ps ∧ (ps = [] → IsUnclosed s) ∧ (∀ u rest, ps ≠ .text u :: rest) ∧
      ∀ body rest, ps = .marker body :: rest → ¬ opening <:+: s.toList := by
  constructor
  · intro h
    refine ⟨h.nonempty s List.mem_cons_self, ⟨?_, ?_, ?_, ?_, ?_⟩, ?_, ?_, ?_⟩
    · exact fun u hu => h.nonempty u (List.mem_cons_of_mem _ hu)
    · exact fun u v hu => h.apart u v (List.infix_cons hu)
    · exact fun body hb => h.closed body (List.mem_cons_of_mem _ hb)
    · exact fun u body hu => h.unopened u body (List.infix_cons hu)
    · intro u hu
      exact h.unclosed u (by rw [List.getLast?_cons, hu]; rfl)
    · rintro rfl
      exact h.unclosed s rfl
    · rintro u rest rfl
      exact h.apart s u ⟨[], rest, rfl⟩
    · rintro body rest rfl
      exact h.unopened s body ⟨[], rest, rfl⟩
  · rintro ⟨hs, h, hlast, htext, hmarker⟩
    -- two pieces side by side are the head and the one behind it, or both are in the rest
    have hhead : ∀ {q : Piece}, [.text s, q] <+: .text s :: ps → ∃ rest, ps = q :: rest := by
      rintro q ⟨rest, hrest⟩
      exact ⟨rest, by simpa using hrest.symm⟩
    refine ⟨?_, ?_, ?_, ?_, ?_⟩
    · intro u hu
      rcases List.mem_cons.mp hu with heq | hu
      · cases heq
        exact hs
      · exact h.nonempty u hu
    · intro u v hu
      rcases List.infix_cons_iff.mp hu with hstart | hwithin
      · obtain rfl : u = s := by simpa using (List.cons_prefix_cons.mp hstart).1
        obtain ⟨rest, hrest⟩ := hhead hstart
        exact htext v rest hrest
      · exact h.apart u v hwithin
    · intro body hb
      exact h.closed body (by simpa using hb)
    · intro u body hu
      rcases List.infix_cons_iff.mp hu with hstart | hwithin
      · obtain rfl : u = s := by simpa using (List.cons_prefix_cons.mp hstart).1
        obtain ⟨rest, hrest⟩ := hhead hstart
        exact hmarker body rest hrest
      · exact h.unopened u body hwithin
    · intro u hu
      rw [List.getLast?_cons] at hu
      cases hps : ps.getLast? with
      | none =>
        obtain rfl : s = u := by simpa [hps] using hu
        exact hlast (List.getLast?_eq_none_iff.mp hps)
      | some p => exact h.unclosed u (by simpa [hps] using hu)

/-! ## Reading -/

@[simp] theorem toList_raw (body : String) :
    (raw body).toList = '$' :: '\x7b' :: (body.toList ++ ['\x7d']) := by
  simp [raw]

theorem readPieces_unclosed {r : List Char} (h : '\x7d' ∉ r) :
    readPieces ('$' :: '\x7b' :: r) = [.text (String.ofList ('$' :: '\x7b' :: r))] := by
  have hdrop : r.dropWhile (· != '\x7d') = [] := by
    rw [List.dropWhile_eq_nil_iff]
    intro c hc
    have hne : c ≠ '\x7d' := fun heq => h (heq ▸ hc)
    simpa using hne
  rw [readPieces]
  split
  · rfl
  · next hcons => simp [hdrop] at hcons

theorem readPieces_marker {body : List Char} (h : '\x7d' ∉ body) (rest : List Char) :
    readPieces ('$' :: '\x7b' :: (body ++ '\x7d' :: rest)) = .marker (String.ofList body) :: readPieces rest := by
  have hkeep : ∀ c ∈ body, (c != '\x7d') = true := by
    intro c hc
    have hne : c ≠ '\x7d' := fun heq => h (heq ▸ hc)
    simpa using hne
  have hdrop : (body ++ '\x7d' :: rest).dropWhile (· != '\x7d') = '\x7d' :: rest := by
    rw [List.dropWhile_append_of_pos hkeep, List.dropWhile_cons_of_neg (by simp)]
  have htake : (body ++ '\x7d' :: rest).takeWhile (· != '\x7d') = body := by
    rw [List.takeWhile_append_of_pos hkeep, List.takeWhile_cons_of_neg (by simp), List.append_nil]
  rw [readPieces]
  split
  · next hnil => simp [hdrop] at hnil
  · next hcons =>
    rw [hdrop] at hcons
    cases hcons
    rw [htake]

theorem readPieces_plain {c : Char} {r : List Char} (h : ¬ opening <+: c :: r) :
    readPieces (c :: r) = consText c (readPieces r) := by
  rw [readPieces]
  rintro r' rfl rfl
  exact h ⟨r', rfl⟩

/-- Reading comes to the end, to an opening that nothing closes, to a marker, or to a character of plain text. -/
theorem reading_induction {motive : List Char → Prop} (nil : motive [])
    (unclosed : ∀ r, '\x7d' ∉ r → motive ('$' :: '\x7b' :: r))
    (marker : ∀ body rest, '\x7d' ∉ body → motive rest → motive ('$' :: '\x7b' :: (body ++ '\x7d' :: rest)))
    (plain : ∀ c r, ¬ opening <+: c :: r → motive r → motive (c :: r)) (cs : List Char) : motive cs := by
  induction cs using readPieces.induct with
  | case1 => exact nil
  | case2 r hdrop =>
    refine unclosed r fun hmem => ?_
    simpa using List.dropWhile_eq_nil_iff.mp hdrop _ hmem
  | case3 r d t hdrop _ ih =>
    -- what is dropped ends right before the first closing brace
    have hd : d = '\x7d' := by
      have := List.head?_dropWhile_not (· != '\x7d') r
      simpa [hdrop] using this
    have hr : r = r.takeWhile (· != '\x7d') ++ '\x7d' :: t := by
      rw [hd] at hdrop
      rw [← hdrop, List.takeWhile_append_dropWhile]
    rw [hr]
    refine marker _ t (fun hmem => ?_) ih
    simpa using List.mem_takeWhile_imp hmem
  | case4 c r hplain ih =>
    refine plain c r ?_ ih
    rintro ⟨r', hr'⟩
    cases hr'
    exact hplain r' rfl rfl

/-! ## Cutting -/

theorem foldr_consText_text (cs : List Char) (s : String) (ps : List Piece) :
    cs.foldr consText (.text s :: ps) = .text (String.ofList cs ++ s) :: ps := by
  induction cs with
  | nil => simp
  | cons c r ih => rw [List.foldr_cons, ih, consText, ← String.append_assoc, String.ofList_cons]

theorem foldr_consText {cs : List Char} (hcs : cs ≠ []) (h : ∀ s rest, ps ≠ .text s :: rest) :
    cs.foldr consText ps = .text (String.ofList cs) :: ps := by
  obtain ⟨front, c, rfl⟩ := List.eq_nil_or_concat cs |>.resolve_left hcs
  have hlast : consText c ps = .text (String.singleton c) :: ps := by
    unfold consText
    split
    · next s rest => exact absurd rfl (h s rest)
    · rfl
  rw [List.concat_eq_append, List.foldr_append, List.foldr_cons, List.foldr_nil, hlast, foldr_consText_text,
    String.ofList_append]
  rfl

/-- Text that opens no marker is put in front of what is read behind it. -/
theorem readPieces_append {cs t : List Char} (h : ¬ opening <:+: cs)
    (hborder : ¬ OpensAcross cs t) :
    readPieces (cs ++ t) = cs.foldr consText (readPieces t) := by
  induction cs with
  | nil => rfl
  | cons c r ih =>
    have hstart : ¬ opening <+: c :: r := fun hp => h hp.isInfix
    rw [List.cons_append, readPieces_plain (not_opening_isPrefix_append hstart hborder),
      ih (fun hi => h (List.infix_cons hi)) fun hr => hborder (hr.cons c), List.foldr_cons]

/-- A last text is read back as it is. -/
theorem readPieces_of_isUnclosed {s : String} (hs : s ≠ "") (h : IsUnclosed s) :
    readPieces s.toList = [.text s] := by
  have hnil : s.toList ≠ [] := by simpa using hs
  by_cases hopen : opening <:+: s.toList
  · obtain ⟨before, after, heq, hbefore⟩ := exists_first_opening hopen
    have hafter := h before after heq hbefore
    rw [heq, List.append_assoc, readPieces_append hbefore (by simp [OpensAcross, opening])]
    show before.foldr consText (readPieces ('$' :: '\x7b' :: after)) = _
    rw [readPieces_unclosed hafter, foldr_consText_text, ← String.ofList_append]
    congr 2
    rw [← String.toList_inj, heq]
    simp [opening]
  · have hread := readPieces_append (t := []) hopen (by simp [OpensAcross])
    rw [List.append_nil] at hread
    rw [hread, readPieces, foldr_consText hnil (by simp), String.ofList_toList]

/-- Pieces that are well cut are read back from the pattern that they make up. -/
theorem pieces_written (h : WellCut ps) : pieces (written ps) = ps := by
  unfold pieces
  induction ps with
  | nil => simp [readPieces]
  | cons p rest ih =>
    cases p with
    | marker body =>
      obtain ⟨hbody, hrest⟩ := wellCut_marker_cons_iff.mp h
      have hsource : (written (.marker body :: rest)).toList =
          '$' :: '\x7b' :: (body.toList ++ '\x7d' :: (written rest).toList) := by simp [Piece.source]
      rw [hsource, readPieces_marker hbody, ih hrest, String.ofList_toList]
    | text s =>
      obtain ⟨hs, hrest, hlast, htext, hmarker⟩ := wellCut_text_cons_iff.mp h
      cases rest with
      | nil =>
        have hsource : (written [.text s]).toList = s.toList := by simp [Piece.source]
        rw [hsource, readPieces_of_isUnclosed hs (hlast rfl)]
      | cons q rest =>
        cases q with
        | text u => exact absurd rfl (htext u rest)
        | marker body =>
          have hsource : (written (.text s :: .marker body :: rest)).toList =
              s.toList ++ (written (.marker body :: rest)).toList := by simp [Piece.source]
          -- the opening of the marker is the first one
          have hborder : ¬ OpensAcross s.toList (written (.marker body :: rest)).toList := by
            simp [OpensAcross, Piece.source]
          rw [hsource, readPieces_append (hmarker body rest rfl) hborder, ih hrest,
            foldr_consText (by simpa using hs) (by simp), String.ofList_toList]

/-! ## Pieces of a pattern -/

theorem written_consText (c : Char) (ps : List Piece) :
    written (consText c ps) = String.singleton c ++ written ps := by
  unfold consText
  split
  · simp [Piece.source, String.append_assoc]
  · simp [Piece.source]

theorem toList_written_readPieces (cs : List Char) : (written (readPieces cs)).toList = cs := by
  induction cs using reading_induction with
  | nil => simp [readPieces]
  | unclosed r h => simp [readPieces_unclosed h, Piece.source]
  | marker body rest h ih => simp [readPieces_marker h, Piece.source, ih]
  | plain c r h ih => simp [readPieces_plain h, written_consText, ih]

/-- A character of plain text in front keeps to the rules, if it does not open a marker. -/
theorem WellCut.consText {c : Char} (h : WellCut ps) (hplain : ¬ opening <+: c :: (written ps).toList) :
    WellCut (consText c ps) := by
  -- neither alone nor with the text behind it does the character open anything
  have hsingle : ¬ opening <:+: (String.singleton c).toList := by
    rw [String.toList_singleton]
    exact not_opening_isInfix_singleton c
  cases ps with
  | nil =>
    refine wellCut_text_cons_iff.mpr ⟨by simp [← String.toList_inj], wellCut_nil, fun _ => ?_, by simp, by simp⟩
    intro before after heq
    exact absurd ⟨before, after, heq.symm⟩ hsingle
  | cons p rest =>
    cases p with
    | marker body =>
      refine wellCut_text_cons_iff.mpr ⟨by simp [← String.toList_inj], h, by simp, by simp, ?_⟩
      exact fun _ _ _ => hsingle
    | text s =>
      obtain ⟨hs, hrest, hlast, htext, hmarker⟩ := wellCut_text_cons_iff.mp h
      have htoList : (String.singleton c ++ s).toList = c :: s.toList := by simp
      have hhead : ¬ opening <+: c :: s.toList := by
        intro hp
        refine hplain (hp.trans ?_)
        simp [Piece.source]
      refine wellCut_text_cons_iff.mpr ⟨by simp [← String.toList_inj], hrest, fun hnil => ?_, htext, ?_⟩
      · intro before after heq hbefore
        rw [htoList] at heq
        cases before with
        | nil => exact absurd ⟨after, heq.symm⟩ hhead
        | cons d before =>
          rw [List.cons_append, List.cons_append] at heq
          exact hlast hnil before after (List.cons.inj heq).2 fun hi => hbefore (List.infix_cons hi)
      · intro body rest' heq hi
        rw [htoList] at hi
        exact hmarker body rest' heq ((List.infix_cons_iff.mp hi).resolve_left hhead)

theorem wellCut_readPieces (cs : List Char) : WellCut (readPieces cs) := by
  induction cs using reading_induction with
  | nil => simpa [readPieces] using wellCut_nil
  | unclosed r h =>
    rw [readPieces_unclosed h]
    refine wellCut_text_cons_iff.mpr ⟨by simp [← String.toList_inj], wellCut_nil, fun _ => ?_, by simp, by simp⟩
    -- whatever stands behind an opening stands behind the one at the head
    intro before after heq _ hmem
    have hlength := congrArg List.length heq
    have hsuffix : after <:+ '$' :: '\x7b' :: r := by
      rw [String.toList_ofList] at heq
      exact ⟨before ++ opening, by rw [heq]⟩
    simp [opening] at hlength
    have hr : after <:+ r := by
      refine List.suffix_of_suffix_length_le hsuffix ⟨['$', '\x7b'], rfl⟩ ?_
      omega
    exact h (hr.subset hmem)
  | marker body rest h ih =>
    rw [readPieces_marker h]
    exact wellCut_marker_cons_iff.mpr ⟨by simpa using h, ih⟩
  | plain c r h ih =>
    rw [readPieces_plain h]
    exact ih.consText (by rwa [toList_written_readPieces])

/-! ## Expansion with nothing bound -/

/-- The digits of a marker that is a number with too many of them. -/
def Piece.excess? : Piece → Option Nat
  | .text _ => none
  | .marker body => if IsOverlong body then some body.length else none

section

variable [Library]

theorem expandPiece_unbound (indexed : List String) (p : Piece) :
    expandPiece { indexed } p = p.excess?.elim (.ok p.source) fun n => .error (.value (.tooManyDigits n)) := by
  cases p with
  | text s => rfl
  | marker body =>
    show substitute { indexed } body = (if IsOverlong body then some body.length else none).elim (.ok (raw body)) _
    by_cases hlong : IsOverlong body
    · rw [if_pos hlong, substitute_of_isOverlong hlong]
      rfl
    · rw [if_neg hlong]
      rcases marker_cases indexed body with rfl | h | ⟨path, h⟩ | h
      · exact substitute_valueWord _
      · exact absurd h hlong
      · exact substitute_of_denotes h
      · exact substitute_of_meansNothing h

theorem expandPieces_unbound (indexed : List String) (ps : List Piece) :
    expandPieces { indexed } ps =
      (ps.findSome? Piece.excess?).elim (.ok (written ps)) fun n => .error (.value (.tooManyDigits n)) := by
  induction ps with
  | nil => rfl
  | cons p rest ih =>
    rw [expandPieces, expandPiece_unbound, List.findSome?_cons]
    cases hp : p.excess? with
    | some n => rfl
    | none =>
      rw [ih]
      cases rest.findSome? Piece.excess? with
      | some n => rfl
      | none => simp [bind, Except.bind, pure, Except.pure]

/-- **The pieces of a pattern** make it up, and they are the only ones that do and keep to the rules. With no value and
    no finder the pattern comes out of its expansion unchanged, but for a marker that is a number too long to be read:
    the first one of these is a failure. -/
theorem pieces_unique (s : String) (indexed : List String) :
    (∀ ps, ps = pieces s ↔ written ps = s ∧ WellCut ps) ∧
      expand { indexed } s =
        match (pieces s).findSome? Piece.excess? with
        | none => .ok s
        | some digits => .error (.value (.tooManyDigits digits)) := by
  have hwritten : written (pieces s) = s := String.toList_inj.mp (toList_written_readPieces s.toList)
  constructor
  · intro ps
    constructor
    · rintro rfl
      exact ⟨hwritten, wellCut_readPieces s.toList⟩
    · rintro ⟨rfl, hcut⟩
      exact (pieces_written hcut).symm
  · unfold expand
    rw [expandPieces_unbound, hwritten]
    cases (pieces s).findSome? Piece.excess? <;> rfl

end

example : pieces "$$\x7ba$\x7bb\x7d\x7d$\x7b" = [.text "$", .marker "a$\x7bb", .text "\x7d$\x7b"] := by cbv

/-- A number of `n` digits. -/
def ones (n : Nat) : String :=
  String.ofList (List.replicate n '1')

theorem length_ones (n : Nat) : (ones n).length = n := by simp [ones]

theorem isOverlong_ones {n : Nat} (h : Text.maxDigits < n) : IsOverlong (ones n) := by
  have hdigits : ∀ c ∈ (ones n).toList, Text.isAsciiDigit c = true := by
    intro c hc
    rw [ones, String.toList_ofList] at hc
    rw [(List.mem_replicate.mp hc).2]
    rfl
  have hnonempty : (ones n).isEmpty = false := by
    rw [← Bool.not_eq_true, String.isEmpty_iff]
    intro hnil
    have hn : n = 0 := by rw [← length_ones n, hnil, String.length_empty]
    omega
  refine ⟨?_, by rwa [length_ones]⟩
  rw [isNumber, hnonempty, List.all_eq_true.mpr hdigits]
  rfl

theorem pieces_ones (n : Nat) : pieces (raw (ones n)) = [.marker (ones n)] := by
  have hcut : WellCut [.marker (ones n)] := by
    refine wellCut_marker_cons_iff.mpr ⟨?_, wellCut_nil⟩
    simp [ones]
  simpa [Piece.source] using pieces_written hcut

/-- With no value and no finder, a marker of one digit too many does not come out as it is: its expansion fails. -/
theorem expand_ones_overlong :
    expand {} (raw (ones 4301)) = .error (.value (.tooManyDigits 4301)) ∧
      expand {} (raw (ones 4301)) ≠ .ok (raw (ones 4301)) := by
  have hlong : IsOverlong (ones 4301) := isOverlong_ones (by decide)
  have hexpand : expand {} (raw (ones 4301)) = .error (.value (.tooManyDigits 4301)) := by
    unfold expand
    rw [pieces_ones, expandPieces_unbound, List.findSome?_cons, Piece.excess?, if_pos hlong, length_ones]
    rfl
  refine ⟨hexpand, ?_⟩
  rw [hexpand]
  intro h
  cases h

end Pattern

end GraphLift
