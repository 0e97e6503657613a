import GraphLift.Json.Compact
import GraphLift.Json.Parser
import GraphLift.Proofs.Number.Notation
import Mathlib

/-! # Values and their compact text

    Compact text tells values apart whose numbers are whole. What follows a value in a text does not matter, as long as a
    number ends where it ends: the parts of a value are told apart from what stands behind them, too.

    * **Strings** (`readString_written`): a string reads back as it was, and up to its closing quote, since every escape
      reads back as its character.
    * **Lists** (`withCommas_inj`): what can be told apart one by one can be told apart between commas.
    * **Values** (`IsWhole.toldApart`): the first character of a text tells the kind of its value, and the parts tell the
      rest.
    * **Texts** (`asText_eq_iff`): a string stands for itself, so that it may be the compact text of another value. Other
      values never stand for the same text.
-/

namespace GraphLift.Json

/-! ## Strings -/

theorem hexValue?_hexDigit : ∀ d < 16, Text.hexValue? (Text.hexDigit d) = some d := by decide

/-- Four hexadecimal digits read back. -/
theorem codeUnit?_hexDigits {n : Nat} (h : n < 0x10000) :
    ∃ w x y z, Text.hexDigits 4 n = [w, x, y, z] ∧ codeUnit? w x y z = some n := by
  refine ⟨_, _, _, _, rfl, ?_⟩
  have hdigit : ∀ m : Nat, Text.hexValue? (Text.hexDigit (m % 16)) = some (m % 16) :=
    fun m => hexValue?_hexDigit _ (Nat.mod_lt m (by decide))
  simp only [codeUnit?, hdigit, Option.bind_eq_bind, Option.bind_some, pure, Option.some.injEq]
  omega

/-- How a character can stand in a string: escaped by a letter or by its code point, or as it is. -/
inductive StandsAs (c : Char) : List Char → Prop where
  | letter {l : Char} (other : l ≠ 'u') (back : escaped? l = some c) : StandsAs c ['\\', l]
  | code {w x y z : Char} (control : c.toNat < 0x20) (back : codeUnit? w x y z = some c.toNat) :
    StandsAs c ['\\', 'u', w, x, y, z]
  | plain (quote : c ≠ '"') (slash : c ≠ '\\') (printed : ¬c.toNat < 0x20) : StandsAs c [c]

theorem standsAs_escapeChar (c : Char) : StandsAs c (escapeChar c) := by
  unfold escapeChar
  split_ifs with hquote hslash hline hreturn htab hback hfeed hcontrol
  · rw [hquote]
    exact .letter (by decide) rfl
  · rw [hslash]
    exact .letter (by decide) rfl
  · rw [hline]
    exact .letter (by decide) rfl
  · rw [hreturn]
    exact .letter (by decide) rfl
  · rw [htab]
    exact .letter (by decide) rfl
  · rw [hback]
    exact .letter (by decide) rfl
  · rw [hfeed]
    exact .letter (by decide) rfl
  · have hsmall : c.toNat < 0x10000 := by omega
    obtain ⟨w, x, y, z, hdigits, hread⟩ := codeUnit?_hexDigits hsmall
    rw [hdigits]
    exact .code hcontrol hread
  · exact .plain hquote hslash hcontrol

/-- The characters of a string after its opening quote, and what stands behind the closing one. -/
def readString (s : List Char) : Except Fault (List Char × List Char) :=
  (stringBody 0 none s).map fun p => (p.1, p.2.1)

/-- A character reads back, whichever way it stands in the string. -/
theorem readString_append {c : Char} {e : List Char} (h : StandsAs c e) {t : List Char} (ht : t ≠ []) :
    readString (e ++ t) = (readString t).map fun p => (c :: p.1, p.2) := by
  unfold readString
  cases h with
  | letter hother hback =>
    simp only [List.cons_append, List.nil_append, hother, false_implies, implies_true, stringBody, hback]
    cases stringBody 0 none t <;> rfl
  | code hcontrol hback =>
    -- the digits are followed by something, the closing quote at least
    obtain ⟨d, r, rfl⟩ := List.exists_cons_of_ne_nil ht
    have hhigh : isHighSurrogate c.toNat = false := by
      simp only [isHighSurrogate, Bool.and_eq_false_iff, decide_eq_false_iff_not]
      omega
    have hlow : isLowSurrogate c.toNat = false := by
      simp only [isLowSurrogate, Bool.and_eq_false_iff, decide_eq_false_iff_not]
      omega
    simp only [List.cons_append, List.nil_append, stringBody, hback, hhigh, hlow, Char.ofNat_toNat]
    cases stringBody 0 none (d :: r) <;> rfl
  | plain hquote hslash hprinted =>
    simp only [List.cons_append, List.nil_append, hslash, false_implies, implies_true, stringBody, hprinted]
    cases stringBody 0 none t <;> rfl

/-- A string reads back, and up to its closing quote. -/
theorem readString_written (cs r : List Char) : readString (cs.flatMap escapeChar ++ '"' :: r) = .ok (cs, r) := by
  induction cs with
  | nil => rfl
  | cons c cs ih =>
    have hrest : cs.flatMap escapeChar ++ '"' :: r ≠ [] := by simp
    rw [List.flatMap_cons, List.append_assoc, readString_append (standsAs_escapeChar c) hrest, ih]
    rfl

theorem stringChars_inj {s t : String} {r r' : List Char} (h : stringChars s ++ r = stringChars t ++ r') :
    s = t ∧ r = r' := by
  simp only [stringChars, List.cons_append, List.append_assoc, List.nil_append, List.cons.injEq, true_and] at h
  have hread := congrArg readString h
  rw [readString_written, readString_written] at hread
  simpa [String.toList_inj] using hread

/-! ## Numbers -/

/-- Nothing follows that could belong to a number. -/
def Ends (r : List Char) : Prop :=
  ∀ c, r.head? = some c → isNumeralChar c = false

theorem ends_nil : Ends [] := by
  simp [Ends]

theorem ends_cons {c : Char} (h : isNumeralChar c = false) (r : List Char) : Ends (c :: r) := by
  simpa [Ends] using h

theorem takeWhile_numeral {cs r : List Char} (hcs : IsNumeral cs) (hr : Ends r) :
    (cs ++ r).takeWhile isNumeralChar = cs := by
  rw [List.takeWhile_append_of_pos hcs]
  cases r with
  | nil => simp
  | cons c r => simp [hr c rfl]

/-- A number reaches up to the first character that no number has. -/
theorem int_inj {n m : Int} {r r' : List Char} (hr : Ends r) (hr' : Ends r')
    (h : (toString n).toList ++ r = (toString m).toList ++ r') : n = m ∧ r = r' := by
  have hsame : (toString n).toList = (toString m).toList := by
    rw [← takeWhile_numeral (isNumeral_int n) hr, h, takeWhile_numeral (isNumeral_int m) hr']
  rw [hsame] at h
  refine ⟨?_, List.append_cancel_left h⟩
  simpa [Int.repr_inj, String.toList_inj] using hsame

/-! ## Lists -/

/-- A text that starts with the code of one and with the code of the other has one reading: they are the same, and so is
    what follows. Nothing that could belong to a number follows either code. -/
def ToldApart {α : Type} (code : α → List Char) (x y : α) : Prop :=
  ∀ r r', Ends r → Ends r' → code x ++ r = code y ++ r' → x = y ∧ r = r'

/-- Codes with commas between them. -/
def withCommas {α : Type} (code : α → List Char) : List α → List Char
  | [] => []
  | x :: rest => code x ++ rest.flatMap fun y => ',' :: code y

section Lists

variable {α : Type} {code : α → List Char} {close : Char} {xs ys : List α} {r r' : List Char}

theorem ends_behind (hclose : isNumeralChar close = false) (xs : List α) (r : List Char) :
    Ends ((xs.flatMap fun x => ',' :: code x) ++ close :: r) := by
  cases xs with
  | nil => exact ends_cons hclose r
  | cons x xs => exact ends_cons (by decide) _

theorem flatMap_comma_inj (hclose : isNumeralChar close = false) (hcomma : close ≠ ',')
    (htold : ∀ x ∈ xs, ∀ y ∈ ys, ToldApart code x y)
    (h : (xs.flatMap fun x => ',' :: code x) ++ close :: r = (ys.flatMap fun y => ',' :: code y) ++ close :: r') :
    xs = ys ∧ r = r' := by
  induction xs generalizing ys with
  | nil =>
    cases ys with
    | nil => simpa using h
    | cons y ys => simp [hcomma] at h
  | cons x xs ih =>
    cases ys with
    | nil => simp [hcomma.symm] at h
    | cons y ys =>
      simp only [List.flatMap_cons, List.cons_append, List.append_assoc, List.cons.injEq, true_and] at h
      obtain ⟨hx, hrest⟩ := htold x List.mem_cons_self y List.mem_cons_self _ _ (ends_behind hclose xs r)
        (ends_behind hclose ys r') h
      have hinner : ∀ x ∈ xs, ∀ y ∈ ys, ToldApart code x y :=
        fun x hx y hy => htold x (List.mem_cons_of_mem _ hx) y (List.mem_cons_of_mem _ hy)
      obtain ⟨hxs, hr⟩ := ih hinner hrest
      exact ⟨by rw [hx, hxs], hr⟩

/-- A list is told apart from others up to the character that closes it, if none of its codes starts with that. -/
theorem withCommas_inj (hclose : isNumeralChar close = false) (hcomma : close ≠ ',')
    (hstart : ∀ x, x ∈ xs ∨ x ∈ ys → ∃ c rest, code x = c :: rest ∧ c ≠ close)
    (htold : ∀ x ∈ xs, ∀ y ∈ ys, ToldApart code x y)
    (h : withCommas code xs ++ close :: r = withCommas code ys ++ close :: r') : xs = ys ∧ r = r' := by
  cases xs with
  | nil =>
    cases ys with
    | nil => simpa [withCommas] using h
    | cons y ys =>
      obtain ⟨c, rest, hcode, hne⟩ := hstart y (.inr List.mem_cons_self)
      simp [withCommas, hcode, hne.symm] at h
  | cons x xs =>
    cases ys with
    | nil =>
      obtain ⟨c, rest, hcode, hne⟩ := hstart x (.inl List.mem_cons_self)
      simp [withCommas, hcode, hne] at h
    | cons y ys =>
      -- with a comma in front of both, the first codes are like the others
      apply flatMap_comma_inj hclose hcomma htold
      simpa [withCommas] using h

end Lists

/-! ## Values -/

/-- All numbers in the value are whole. -/
inductive IsWhole : Json → Prop where
  | null : IsWhole .null
  | bool (b : Bool) : IsWhole (.bool b)
  | int (n : Int) : IsWhole (.int n)
  | text (s : String) : IsWhole (.text s)
  | array {items : List Json} (inner : ∀ v ∈ items, IsWhole v) : IsWhole (.array items)
  | object {members : List (String × Json)} (inner : ∀ m ∈ members, IsWhole m.2) : IsWhole (.object members)

/-- A member of an object in compact text. -/
def memberText (m : String × Json) : List Char :=
  stringChars m.1 ++ ':' :: compactChars m.2

theorem itemChars_eq (items : List Json) : itemChars items = withCommas compactChars items := by
  induction items with
  | nil => rfl
  | cons v rest ih =>
    cases rest with
    | nil => simp [itemChars, withCommas]
    | cons w rest => simp [itemChars, ih, withCommas]

theorem memberChars_eq (members : List (String × Json)) : memberChars members = withCommas memberText members := by
  induction members with
  | nil => rfl
  | cons m rest ih =>
    cases rest with
    | nil => simp [memberChars, withCommas, memberText]
    | cons m' rest => simp [memberChars, ih, withCommas, memberText]

/-- The kind of the values whose text starts with the character. -/
def kindAt (c : Char) : Option String :=
  if isNumeralChar c then some "int"
  else match c with
    | 'n' => some "NoneType"
    | 't' | 'f' => some "bool"
    | '"' => some "str"
    | '[' => some "list"
    | '\x7b' => some "dict"
    | _ => none

/-- The first character of a text tells the kind of its value. -/
theorem IsWhole.kindAt_first {v : Json} (h : IsWhole v) :
    ∃ c rest, compactChars v = c :: rest ∧ kindAt c = some v.kindName := by
  cases h with
  | null => exact ⟨'n', _, rfl, rfl⟩
  | bool b =>
    cases b with
    | true => exact ⟨'t', _, rfl, rfl⟩
    | false => exact ⟨'f', _, rfl, rfl⟩
  | int n =>
    obtain ⟨c, rest, hcons⟩ := List.exists_cons_of_ne_nil (int_ne_nil n)
    refine ⟨c, rest, hcons, if_pos ?_⟩
    apply isNumeral_int n
    rw [hcons]
    exact List.mem_cons_self
  | text s => exact ⟨'"', _, rfl, rfl⟩
  | array => exact ⟨'[', _, rfl, rfl⟩
  | object => exact ⟨'\x7b', _, rfl, rfl⟩

/-- Values are told apart if they are told apart from those of their kind. -/
theorem IsWhole.toldApart_of_kindName {v w : Json} (hv : IsWhole v) (hw : IsWhole w)
    (h : v.kindName = w.kindName → ToldApart compactChars v w) : ToldApart compactChars v w := by
  intro r r' hr hr' heq
  obtain ⟨c, rest, hc, hkind⟩ := hv.kindAt_first
  obtain ⟨c', rest', hc', hkind'⟩ := hw.kindAt_first
  have hfirst : c = c' := by
    rw [hc, hc'] at heq
    exact (List.cons.inj heq).1
  apply h ?_ r r' hr hr' heq
  rw [hfirst, hkind'] at hkind
  exact (Option.some.inj hkind).symm

theorem toldApart_memberText {m k : String × Json} (h : ToldApart compactChars m.2 k.2) :
    ToldApart memberText m k := by
  intro r r' hr hr' heq
  unfold memberText at heq
  rw [List.append_assoc, List.append_assoc] at heq
  obtain ⟨hname, hrest⟩ := stringChars_inj heq
  obtain ⟨hvalue, hr⟩ := h r r' hr hr' (List.cons.inj hrest).2
  exact ⟨Prod.ext hname hvalue, hr⟩

theorem toldApart_array {items others : List Json} (hitems : ∀ v ∈ items, IsWhole v)
    (hothers : ∀ v ∈ others, IsWhole v) (htold : ∀ v ∈ items, ∀ w ∈ others, ToldApart compactChars v w) :
    ToldApart compactChars (.array items) (.array others) := by
  intro r r' _ _ h
  simp only [compactChars, itemChars_eq, List.cons_append, List.append_assoc, List.nil_append, List.cons.injEq,
    true_and] at h
  -- a bracket is the first character of no value, so that an empty array is told from others
  have hstart : ∀ v, v ∈ items ∨ v ∈ others → ∃ c rest, compactChars v = c :: rest ∧ c ≠ ']' := by
    intro v hv
    obtain ⟨c, rest, hc, hkind⟩ := (hv.elim (hitems v) (hothers v)).kindAt_first
    refine ⟨c, rest, hc, ?_⟩
    rintro rfl
    simp [kindAt, isNumeralChar] at hkind
  obtain ⟨rfl, hrest⟩ := withCommas_inj (by decide) (by decide) hstart htold h
  exact ⟨rfl, hrest⟩

theorem toldApart_object {members others : List (String × Json)}
    (htold : ∀ m ∈ members, ∀ k ∈ others, ToldApart compactChars m.2 k.2) :
    ToldApart compactChars (.object members) (.object others) := by
  intro r r' _ _ h
  simp only [compactChars, memberChars_eq, List.cons_append, List.append_assoc, List.nil_append, List.cons.injEq,
    true_and] at h
  have hstart : ∀ m, m ∈ members ∨ m ∈ others → ∃ c rest, memberText m = c :: rest ∧ c ≠ '\x7d' :=
    fun _ _ => ⟨'"', _, rfl, by decide⟩
  obtain ⟨rfl, hrest⟩ := withCommas_inj (by decide) (by decide) hstart
    (fun m hm k hk => toldApart_memberText (htold m hm k hk)) h
  exact ⟨rfl, hrest⟩

/-- Compact text tells values apart, whatever stands behind them. -/
theorem IsWhole.toldApart {v : Json} (hv : IsWhole v) {w : Json} (hw : IsWhole w) : ToldApart compactChars v w := by
  -- the parts of the first value are told apart from all others, and the second one is of the same kind
  induction hv generalizing w with
  | null =>
    refine toldApart_of_kindName .null hw fun hkind => ?_
    cases hw with
    | null => exact fun r r' _ _ h => ⟨rfl, List.append_cancel_left h⟩
    | _ => simp [kindName] at hkind
  | bool b =>
    refine toldApart_of_kindName (.bool b) hw fun hkind => ?_
    cases hw with
    | bool b' =>
      intro r r' _ _ h
      cases b <;> cases b' <;> simp_all [compactChars]
    | _ => simp [kindName] at hkind
  | int n =>
    refine toldApart_of_kindName (.int n) hw fun hkind => ?_
    cases hw with
    | int m =>
      intro r r' hr hr' h
      simp only [compactChars] at h
      obtain ⟨rfl, hrest⟩ := int_inj hr hr' h
      exact ⟨rfl, hrest⟩
    | _ => simp [kindName] at hkind
  | text s =>
    refine toldApart_of_kindName (.text s) hw fun hkind => ?_
    cases hw with
    | text t =>
      intro r r' _ _ h
      simp only [compactChars] at h
      obtain ⟨rfl, hrest⟩ := stringChars_inj h
      exact ⟨rfl, hrest⟩
    | _ => simp [kindName] at hkind
  | array inner ih =>
    refine toldApart_of_kindName (.array inner) hw fun hkind => ?_
    cases hw with
    | array inner' => exact toldApart_array inner inner' fun v hv w hw => ih v hv (inner' w hw)
    | _ => simp [kindName] at hkind
  | object inner ih =>
    refine toldApart_of_kindName (.object inner) hw fun hkind => ?_
    cases hw with
    | object inner' => exact toldApart_object fun m hm k hk => ih m hm (inner' k hk)
    | _ => simp [kindName] at hkind

/-- Values with the same compact text are the same. -/
theorem compact_inj {v w : Json} (hv : IsWhole v) (hw : IsWhole w) (h : v.compact = w.compact) : v = w := by
  have hchars : compactChars v ++ [] = compactChars w ++ [] := by
    rw [List.append_nil, List.append_nil]
    exact String.ofList_inj.mp h
  exact (hv.toldApart hw [] [] ends_nil ends_nil hchars).1

/-! ## Texts -/

theorem asText_of_not_text {v : Json} (hnull : v ≠ .null) (htext : ∀ s, v ≠ .text s) : v.asText = some v.compact := by
  rw [asText]
  · exact hnull
  · exact htext

/-- Two values stand for the same text if they are the same, or if one of them is a string and that is the compact text
    of the other, which is none. So no text stands for two different values that are no strings. -/
theorem asText_eq_iff {v w : Json} (hv : IsWhole v) (hw : IsWhole w) (hvnull : v ≠ .null) (hwnull : w ≠ .null) :
    (v.asText = w.asText ↔
      v = w ∨ (v = .text w.compact ∧ ∀ s, w ≠ .text s) ∨ (w = .text v.compact ∧ ∀ s, v ≠ .text s)) ∧
    ∀ key, (∀ s, v ≠ .text s) → (∀ s, w ≠ .text s) → v.asText = some key → w.asText = some key → v = w := by
  have hothers : (∀ s, v ≠ .text s) → (∀ s, w ≠ .text s) → v.asText = w.asText → v = w := by
    intro hvtext hwtext h
    rw [asText_of_not_text hvnull hvtext, asText_of_not_text hwnull hwtext] at h
    exact compact_inj hv hw (Option.some.inj h)
  refine ⟨⟨fun h => ?_, ?_⟩, fun key hvtext hwtext hvkey hwkey => hothers hvtext hwtext (hvkey.trans hwkey.symm)⟩
  · rcases exists_or_forall_not (v = .text ·) with ⟨s, rfl⟩ | hvtext
    · rcases exists_or_forall_not (w = .text ·) with ⟨t, rfl⟩ | hwtext
      · exact .inl (congrArg Json.text (Option.some.inj h))
      · rw [asText_of_not_text hwnull hwtext] at h
        exact .inr (.inl ⟨congrArg Json.text (Option.some.inj h), hwtext⟩)
    · rcases exists_or_forall_not (w = .text ·) with ⟨t, rfl⟩ | hwtext
      · rw [asText_of_not_text hvnull hvtext] at h
        exact .inr (.inr ⟨congrArg Json.text (Option.some.inj h.symm), hvtext⟩)
      · exact .inl (hothers hvtext hwtext h)
  · rintro (rfl | ⟨rfl, hwtext⟩ | ⟨rfl, hvtext⟩)
    · rfl
    · exact (asText_of_not_text hwnull hwtext).symm
    · exact asText_of_not_text hvnull hvtext

/-- An object whose strings are made of the signs between its parts. -/
def tangled : Json :=
  .object [("a\",", .array [.int (-10), .text "]\\", .null]), ("", .bool true)]

/-- The compact text of that object as a string of its own. -/
def tangledText : Json :=
  .text "\x7b\"a\\\",\":[-10,\"]\\\\\",null],\"\":true\x7d"

theorem isWhole_tangled : IsWhole tangled := by
  unfold tangled
  refine .object ?_
  simp only [List.forall_mem_cons, List.not_mem_nil, false_implies, implies_true, and_true]
  refine ⟨.array ?_, .bool true⟩
  simp only [List.forall_mem_cons, List.not_mem_nil, false_implies, implies_true, and_true]
  exact ⟨.int _, .text _, .null⟩

theorem asText_eq_iff_ofTangled :
    (IsWhole tangled ∧ IsWhole tangledText ∧ tangled ≠ .null ∧ tangledText ≠ .null) ∧
    tangled.asText = tangledText.asText ∧
    (tangled = tangledText ∨ (tangled = .text tangledText.compact ∧ ∀ s, tangledText ≠ .text s) ∨
      (tangledText = .text tangled.compact ∧ ∀ s, tangled ≠ .text s)) := by
  have hnull : tangled ≠ .null := by
    unfold tangled
    exact Json.noConfusion
  have hnull' : tangledText ≠ .null := by
    unfold tangledText
    exact Json.noConfusion
  have hsame : tangled.asText = tangledText.asText := by decide +kernel
  exact ⟨⟨isWhole_tangled, .text _, hnull, hnull'⟩, hsame,
    (asText_eq_iff isWhole_tangled (.text _) hnull hnull').1.mp hsame⟩

end GraphLift.Json
