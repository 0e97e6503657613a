import GraphLift.Proofs.Outcome
import GraphLift.Proofs.Pattern.Splitting

/-! # Expansion piece by piece

    The expansion of a pattern is put together from what its pieces become. What is put in is never read again.

    * **Pieces** (`Pattern.Becomes`): a text stays, and a marker becomes the bound value or what its path leads to, as
      it stands there, or stays.
    * **Values** (`Pattern.expand_verbatim`): the value is put between texts that do not depend on it, and whether a
      pattern can be expanded does not depend on it either.
    * **Composition** (`Pattern.expand_append`): two patterns, one behind the other, are expanded one after the other, if
      no marker reaches across the border.
-/

namespace GraphLift

open Outcome

namespace Pattern

variable {b : Bindings} {ps : List Piece}

section

variable [Library]

/-! ## What pieces become -/

/-- The text that comes in the place of a piece. -/
inductive Becomes (b : Bindings) : Piece → String → Prop where
  | text (s : String) : Becomes b (.text s) s
  | value {v : String} (hvalue : b.value = some v) : Becomes b (.marker valueWord) v
  /-- The path behind a marker leads to a text, or it leads nowhere. -/
  | found {body path : String} {f : Finder} {found : Option String} (hfinder : b.finder = some f)
      (hpath : Denotes b.indexed body path) (hfound : f.first (some path) = .ok found) :
      Becomes b (.marker body) (found.getD "")
  /-- Nothing that is bound comes in the place of the marker. -/
  | kept {body : String} (hvalue : body = valueWord → b.value = none) (hlength : ¬ IsOverlong body)
      (hpath : ∀ path, Denotes b.indexed body path → b.finder = none) : Becomes b (.marker body) (raw body)

theorem lookUp_eq_ok {f : Finder} {path s : String} :
    lookUp f path = .ok s ↔ ∃ found, f.first (some path) = .ok found ∧ found.getD "" = s := by
  unfold lookUp
  exact map_eq_ok

theorem expandPiece_eq_ok_iff {p : Piece} {s : String} : expandPiece b p = .ok s ↔ Becomes b p s := by
  constructor
  · intro h
    cases p with
    | text u =>
      cases h
      exact .text s
    | marker body =>
      change substitute b body = .ok s at h
      rcases marker_cases b.indexed body with rfl | hlong | ⟨path, hpath⟩ | hnothing
      · rw [substitute_valueWord] at h
        cases hvalue : b.value with
        | none =>
          rw [hvalue] at h
          cases h
          refine .kept (fun _ => hvalue) (fun hlong => ?_) fun path hpath => ?_
          · exact absurd rfl (ne_valueWord_of_isNumber hlong.1)
          · exact absurd rfl hpath.ne_valueWord
        | some v =>
          rw [hvalue] at h
          cases h
          exact .value hvalue
      · rw [substitute_of_isOverlong hlong] at h
        cases h
      · rw [substitute_of_denotes hpath] at h
        cases hfinder : b.finder with
        | none =>
          rw [hfinder] at h
          cases h
          exact .kept (fun heq => absurd heq hpath.ne_valueWord) hpath.not_overlong fun _ _ => hfinder
        | some f =>
          rw [hfinder] at h
          obtain ⟨found, hfound, rfl⟩ := lookUp_eq_ok.mp h
          exact .found hfinder hpath hfound
      · rw [substitute_of_meansNothing hnothing] at h
        cases h
        refine .kept (fun heq => absurd heq hnothing.not_value) hnothing.not_overlong fun path hpath => ?_
        exact absurd hpath (hnothing.not_denotes path)
  · intro h
    cases h with
    | text => rfl
    | value hvalue =>
      show substitute b valueWord = _
      rw [substitute_valueWord, hvalue]
      rfl
    | found hfinder hpath hfound =>
      show substitute b _ = _
      rw [substitute_of_denotes hpath, hfinder]
      exact lookUp_eq_ok.mpr ⟨_, hfound, rfl⟩
    | @kept body hvalue hlength hpath =>
      show substitute b body = _
      rcases marker_cases b.indexed body with rfl | hlong | ⟨path, hdenotes⟩ | hnothing
      · rw [substitute_valueWord, hvalue rfl]
        rfl
      · exact absurd hlong hlength
      · rw [substitute_of_denotes hdenotes, hpath path hdenotes]
        rfl
      · exact substitute_of_meansNothing hnothing

/-- The expansion comes out well if every piece becomes something, and it is put together from what they become. -/
theorem expandPieces_eq_ok_iff {r : String} :
    expandPieces b ps = .ok r ↔ ∃ texts, List.Forall₂ (Becomes b) ps texts ∧ r = String.join texts := by
  simp only [expandPieces_eq_mapM, map_eq_ok, mapM_eq_ok, expandPiece_eq_ok_iff, eq_comm (a := r)]

/-! ## The place of the value -/

variable {finder : Option Finder} {indexed : List String}

/-- What a piece becomes does not depend on the value, unless it is the marker for the value. -/
theorem expandPiece_eq_of_ne {p : Piece} (h : p ≠ .marker valueWord) (v w : Option String) :
    expandPiece ⟨finder, v, indexed⟩ p = expandPiece ⟨finder, w, indexed⟩ p := by
  cases p with
  | text s => rfl
  | marker body =>
    show substitute ⟨finder, v, indexed⟩ body = substitute ⟨finder, w, indexed⟩ body
    rcases marker_cases indexed body with rfl | hlong | ⟨path, hpath⟩ | hnothing
    · exact absurd rfl h
    · rw [substitute_of_isOverlong hlong, substitute_of_isOverlong hlong]
    · rw [substitute_of_denotes hpath, substitute_of_denotes hpath]
    · rw [substitute_of_meansNothing hnothing, substitute_of_meansNothing hnothing]

/-- Either the pieces cannot be expanded, for one and the same reason with every value, or the value is put between texts
    that do not depend on it. -/
theorem expandPieces_value (finder : Option Finder) (indexed : List String) (ps : List Piece) :
    (∃ e, ∀ v, expandPieces ⟨finder, some v, indexed⟩ ps = .error e) ∨
      ∃ parts : List String, parts.length = ps.count (.marker valueWord) + 1 ∧
        ∀ v, expandPieces ⟨finder, some v, indexed⟩ ps = .ok (v.intercalate parts) := by
  induction ps with
  | nil => exact .inr ⟨[""], rfl, fun v => by rw [String.intercalate_singleton]; rfl⟩
  | cons p rest ih =>
    by_cases hp : p = .marker valueWord
    · subst hp
      have hhead : ∀ v, expandPiece ⟨finder, some v, indexed⟩ (.marker valueWord) = .ok v :=
        fun v => substitute_valueWord _
      rcases ih with ⟨e, he⟩ | ⟨parts, hlength, hparts⟩
      · refine .inl ⟨e, fun v => ?_⟩
        rw [expandPieces, hhead, he]
        rfl
      · -- the value begins a new text
        have hne : parts ≠ [] := List.ne_nil_of_length_eq_add_one hlength
        refine .inr ⟨"" :: parts, by simp [hlength], fun v => ?_⟩
        rw [expandPieces, hhead, hparts, String.intercalate_cons_of_ne_nil hne, String.empty_append]
        rfl
    · cases hs : expandPiece ⟨finder, none, indexed⟩ p with
      | error e =>
        refine .inl ⟨e, fun v => ?_⟩
        rw [expandPieces, expandPiece_eq_of_ne hp (some v) none, hs]
        rfl
      | ok s =>
        rcases ih with ⟨e, he⟩ | ⟨parts, hlength, hparts⟩
        · refine .inl ⟨e, fun v => ?_⟩
          rw [expandPieces, expandPiece_eq_of_ne hp (some v) none, hs, he]
          rfl
        · -- the text goes in front of the first of the texts behind it
          obtain ⟨t, tail, rfl⟩ := List.exists_cons_of_length_eq_add_one hlength
          refine .inr ⟨(s ++ t) :: tail, ?_, fun v => ?_⟩
          · rw [List.count_cons_of_ne hp]
            exact hlength
          · rw [expandPieces, expandPiece_eq_of_ne hp (some v) none, hs, hparts, String.intercalate_cons_append]
            rfl

/-- **What is put in stands there verbatim**, and it is not read again. Either a pattern cannot be expanded, for the same
    reason with every value; or there are texts, one more than markers for the value, that depend on the pattern, the
    finder and the indexed paths alone, and between which every value is put. And the expansion is what the pieces
    become, one after the other. -/
theorem expand_verbatim (finder : Option Finder) (indexed : List String) (pattern : String) :
    ((∃ e, ∀ v, expand ⟨finder, some v, indexed⟩ pattern = .error e) ∨
      ∃ parts : List String, parts.length = (pieces pattern).count (.marker valueWord) + 1 ∧
        ∀ v, expand ⟨finder, some v, indexed⟩ pattern = .ok (v.intercalate parts)) ∧
      ∀ value r, expand ⟨finder, value, indexed⟩ pattern = .ok r ↔
        ∃ texts, List.Forall₂ (Becomes ⟨finder, value, indexed⟩) (pieces pattern) texts ∧ r = String.join texts :=
  ⟨expandPieces_value finder indexed (pieces pattern), fun _ _ => expandPieces_eq_ok_iff⟩

/-! ## One pattern behind another -/

/-- The pattern ends in no opening that nothing closes. -/
def IsTerminated (pattern : String) : Prop :=
  ∀ s, (pieces pattern).getLast? = some (.text s) → ¬ opening <:+: s.toList

theorem expandPieces_consText (b : Bindings) (c : Char) (ps : List Piece) :
    expandPieces b (consText c ps) = (expandPieces b ps).map (String.singleton c ++ ·) := by
  unfold consText
  split
  · next s rest =>
    simp only [expandPieces, expandPiece]
    cases expandPieces b rest with
    | error e => rfl
    | ok r => exact congrArg Except.ok String.append_assoc
  · simp only [expandPieces, expandPiece]
    cases expandPieces b _ <;> rfl

omit [Library] in
/-- A last text is still the last one when a character is put in front of all. -/
theorem exists_last_consText {c : Char} {s : String} (h : ps.getLast? = some (.text s)) :
    ∃ u, (consText c ps).getLast? = some (.text u) ∧ s.toList <:+: u.toList := by
  cases ps with
  | nil => cases h
  | cons p rest =>
    rw [List.getLast?_cons] at h
    cases hrest : rest.getLast? with
    | some q =>
      have hq : q = .text s := by simpa [hrest] using h
      refine ⟨s, ?_, List.infix_rfl⟩
      cases p <;> simp [consText, List.getLast?_cons, hrest, hq]
    | none =>
      obtain rfl := List.getLast?_eq_none_iff.mp hrest
      obtain rfl : p = .text s := by simpa using h
      exact ⟨String.singleton c ++ s, rfl, by simpa using List.infix_append [c] s.toList []⟩

theorem expandPieces_append {cs t : List Char}
    (hlast : ∀ s, (readPieces cs).getLast? = some (.text s) → ¬ opening <:+: s.toList)
    (hborder : ¬ OpensAcross cs t) (b : Bindings) :
    expandPieces b (readPieces (cs ++ t)) = (do
      let x ← expandPieces b (readPieces cs)
      let y ← expandPieces b (readPieces t)
      return x ++ y) := by
  -- the cases are those of reading the first pattern: the second one is reached at its end only
  induction cs using reading_induction with
  | nil =>
    rw [List.nil_append, readPieces]
    cases expandPieces b (readPieces t) with
    | error e => rfl
    | ok y => exact congrArg Except.ok String.empty_append.symm
  | unclosed r h =>
    -- such a pattern is one text, and it opens a marker
    rw [readPieces_unclosed h] at hlast
    refine absurd ?_ (hlast _ rfl)
    rw [String.toList_ofList]
    exact ⟨[], r, rfl⟩
  | marker body rest h ih =>
    have hcs : '$' :: '\x7b' :: (body ++ '\x7d' :: rest) ++ t = '$' :: '\x7b' :: (body ++ '\x7d' :: (rest ++ t)) := by
      simp
    have hlast' : ∀ s, (readPieces rest).getLast? = some (.text s) → ¬ opening <:+: s.toList := by
      intro s hs
      exact hlast s (by rw [readPieces_marker h, List.getLast?_cons, hs]; rfl)
    have hborder' : ¬ OpensAcross rest t := by
      intro hrest
      exact hborder (by simpa using hrest.append_left ('$' :: '\x7b' :: (body ++ ['\x7d'])))
    rw [hcs, readPieces_marker h, readPieces_marker h, expandPieces, expandPieces, ih hlast' hborder']
    cases expandPiece b (.marker (String.ofList body)) with
    | error e => rfl
    | ok s =>
      cases expandPieces b (readPieces rest) with
      | error e => rfl
      | ok x =>
        cases expandPieces b (readPieces t) with
        | error e => rfl
        | ok y => exact congrArg Except.ok String.append_assoc.symm
  | plain c r h ih =>
    have hlast' : ∀ s, (readPieces r).getLast? = some (.text s) → ¬ opening <:+: s.toList := by
      intro s hs hopen
      obtain ⟨u, hu, hwithin⟩ := exists_last_consText (c := c) hs
      exact hlast u (by rw [readPieces_plain h, hu]) (hopen.trans hwithin)
    rw [List.cons_append, readPieces_plain h, readPieces_plain (not_opening_isPrefix_append h hborder),
      expandPieces_consText, expandPieces_consText, ih hlast' fun hr => hborder (hr.cons c)]
    cases expandPieces b (readPieces r) with
    | error e => rfl
    | ok x =>
      cases expandPieces b (readPieces t) with
      | error e => rfl
      | ok y => exact congrArg Except.ok String.append_assoc.symm

/-- **Expansion is compositional**: where the first pattern leaves no marker open and none begins at the border, the two
    patterns together are expanded as the first one and then the second one are, and they fail as these do. -/
theorem expand_append {first second : String} (hfirst : IsTerminated first)
    (hborder : ¬ OpensAcross first.toList second.toList) (b : Bindings) :
    expand b (first ++ second) = (do
      let x ← expand b first
      let y ← expand b second
      return x ++ y) := by
  unfold expand pieces
  rw [String.toList_append]
  exact expandPieces_append hfirst hborder b

end

/-- A dollar sign at the border does no harm before another one, even if the value opens a marker itself. -/
theorem expand_append_atDollar :
    IsTerminated "<$\x7bvalue\x7d$" ∧
      ¬ OpensAcross "<$\x7bvalue\x7d$".toList "$\x7bvalue\x7d>".toList ∧
      expand { value := some "$\x7b" } ("<$\x7bvalue\x7d$" ++ "$\x7bvalue\x7d>") = .ok "<$\x7b$$\x7b>" := by
  have hpieces : pieces "<$\x7bvalue\x7d$" = [.text "<", .marker "value", .text "$"] := by cbv
  have hfirst : IsTerminated "<$\x7bvalue\x7d$" := by
    intro s hs
    rw [hpieces] at hs
    cases hs
    exact not_opening_isInfix_singleton '$'
  have hborder : ¬ OpensAcross "<$\x7bvalue\x7d$".toList "$\x7bvalue\x7d>".toList := by decide
  refine ⟨hfirst, hborder, ?_⟩
  have hleft : expand { value := some "$\x7b" } "<$\x7bvalue\x7d$" = .ok "<$\x7b$" := by cbv
  have hright : expand { value := some "$\x7b" } "$\x7bvalue\x7d>" = .ok "$\x7b>" := by cbv
  rw [expand_append hfirst hborder, hleft, hright]
  rfl

end Pattern

end GraphLift
