import GraphLift.Json.Basic
import GraphLift.Text.Numeral

/-! # Tokens of JSON paths

    `tokens?` splits the text of a path into tokens; blanks, tabs and line feeds between them are skipped.

    * **Bare names** start with a basic Latin letter or an underscore, perhaps after an at sign, and go on with
      letters, digits, underscores, at signs and hyphens. Two words are reserved and are no names.
    * **Quoted names** stand between single or double quotes; a backslash takes the next character as it is,
      which must not be a line feed.
    * **Numbers** are whole, or have digits on both sides of a point; both may have a minus sign. The digits may
      be of any script.
-/

namespace GraphLift

namespace JsonPath

/-- A token of a path. -/
inductive Token where
  | dollar
  | at
  | dot
  | dots
  | leftBracket
  | rightBracket
  | leftParen
  | rightParen
  | comma
  | colon
  | star
  | question
  | equal
  | different
  | less
  | lessOrEqual
  | greater
  | greaterOrEqual
  | conjunction
  | disjunction
  | negation
  | name (s : String)
  | quoted (s : String)
  | whole (n : Int)
  | decimal (x : Binary64)
  /-- A word between back quotes. -/
  | operator (s : String)

/-- What remains of `s` after at least one character was read. -/
abbrev Shorter {α : Type} (s : List α) := { r : List α // r.length < s.length }

/-- Starts a bare name. -/
def isWordStart (c : Char) : Bool :=
  ('a' ≤ c && c ≤ 'z') || ('A' ≤ c && c ≤ 'Z') || c = '_'

/-- Continues a bare name. -/
def isWordChar (c : Char) : Bool :=
  isWordStart c || Text.isAsciiDigit c || c = '@' || c = '-'

/-- Words that cannot stand as bare names. -/
def reservedWords : List String := ["where", "wherenot"]

theorem length_lt_cons {α : Type} (a : α) (r : List α) : r.length < (a :: r).length :=
  Nat.lt_succ_self r.length

theorem length_lt_cons_of_lt {α : Type} (a : α) {r u : List α} (h : u.length < r.length) :
    u.length < (a :: r).length :=
  Nat.lt_succ_of_lt h

theorem length_dropWhile_lt (p : Char → Bool) (c : Char) (r : List Char) :
    (r.dropWhile p).length < (c :: r).length :=
  Nat.lt_succ_of_le (List.dropWhile_suffix p).length_le

theorem length_lt_of_dropWhile_eq (p : Char → Bool) (c : Char) {r t : List Char} (h : r.dropWhile p = t) :
    t.length < (c :: r).length :=
  h ▸ length_dropWhile_lt p c r

theorem length_dropWhile_lt_of_dropWhile_eq (p : Char → Bool) (c d e : Char) {r t : List Char}
    (h : r.dropWhile p = d :: e :: t) : (t.dropWhile p).length < (c :: r).length :=
  Nat.lt_trans (length_dropWhile_lt p e t)
    (Nat.lt_trans (Nat.lt_succ_self _) (length_lt_of_dropWhile_eq p c h))

/-- What remains after the first character. -/
def Shorter.tail {α : Type} (a : α) (r : List α) : Shorter (a :: r) := ⟨r, length_lt_cons a r⟩

/-- What remains of a text remains of the text with one more character in front. -/
def Shorter.after {α : Type} (a : α) {r : List α} : Shorter r → Shorter (a :: r)
  | ⟨u, h⟩ => ⟨u, length_lt_cons_of_lt a h⟩

/-- Reads what stands before a closing quote. -/
def quotedBody (quote : Char) : (s : List Char) → Option (List Char × Shorter s)
  | [] => none
  | ['\\'] => none
  | '\\' :: c :: r =>
    if c = '\n' then none
    else do
      let (cs, t) ← quotedBody quote r
      return (c :: cs, (t.after _).after _)
  | c :: r =>
    if c = quote then some ([], Shorter.tail _ r)
    else do
      let (cs, t) ← quotedBody quote r
      return (c :: cs, t.after _)

/-- The token of a whole number with these digits, unless there are too many of them. -/
def wholeToken? (negative : Bool) (digits : List Char) : Option Token :=
  (Text.wholeNumber? digits).map fun n => .whole (if negative then -(n : Int) else n)

/-- The token of a number with these digits before and after its point. -/
def decimalToken (negative : Bool) (whole places : List Char) : Token :=
  .decimal (Binary64.ofDecimal negative (Text.foldDigits 0 (whole ++ places)) (-(places.length : Int)))

/-- Reads a number whose minus sign has been read already. -/
def numberToken? (negative : Bool) (s : List Char) : Option (Token × Shorter s) :=
  match s with
  | [] => none
  | c :: r =>
    if Text.isDigit c then
      let whole := c :: r.takeWhile Text.isDigit
      match h : r.dropWhile Text.isDigit with
      | '.' :: d :: t =>
        if Text.isDigit d then
          some (decimalToken negative whole (d :: t.takeWhile Text.isDigit),
            ⟨t.dropWhile Text.isDigit, length_dropWhile_lt_of_dropWhile_eq Text.isDigit c '.' d h⟩)
        else (wholeToken? negative whole).map fun n => (n, ⟨'.' :: d :: t, length_lt_of_dropWhile_eq Text.isDigit c h⟩)
      | t => (wholeToken? negative whole).map fun n => (n, ⟨t, length_lt_of_dropWhile_eq Text.isDigit c h⟩)
    else none

/-- Reads the token at the front of a text that does not start with a blank. -/
def token? (s : List Char) : Option (Token × Shorter s) :=
  match s with
  | '$' :: r => some (.dollar, Shorter.tail _ r)
  | '@' :: c :: r =>
    if isWordStart c then
      some (.name (String.ofList ('@' :: c :: r.takeWhile isWordChar)),
        Shorter.after _ ⟨r.dropWhile isWordChar, length_dropWhile_lt isWordChar c r⟩)
    else some (.at, Shorter.tail _ (c :: r))
  | '@' :: r => some (.at, Shorter.tail _ r)
  | '.' :: '.' :: r => some (.dots, (Shorter.tail _ r).after _)
  | '.' :: r => some (.dot, Shorter.tail _ r)
  | '[' :: r => some (.leftBracket, Shorter.tail _ r)
  | ']' :: r => some (.rightBracket, Shorter.tail _ r)
  | '(' :: r => some (.leftParen, Shorter.tail _ r)
  | ')' :: r => some (.rightParen, Shorter.tail _ r)
  | ',' :: r => some (.comma, Shorter.tail _ r)
  | ':' :: r => some (.colon, Shorter.tail _ r)
  | '*' :: r => some (.star, Shorter.tail _ r)
  | '?' :: r => some (.question, Shorter.tail _ r)
  | '=' :: '=' :: r => some (.equal, (Shorter.tail _ r).after _)
  | '!' :: '=' :: r => some (.different, (Shorter.tail _ r).after _)
  | '<' :: '=' :: r => some (.lessOrEqual, (Shorter.tail _ r).after _)
  | '>' :: '=' :: r => some (.greaterOrEqual, (Shorter.tail _ r).after _)
  | '<' :: r => some (.less, Shorter.tail _ r)
  | '>' :: r => some (.greater, Shorter.tail _ r)
  | '!' :: r => some (.negation, Shorter.tail _ r)
  | '&' :: '&' :: r => some (.conjunction, (Shorter.tail _ r).after _)
  | '|' :: '|' :: r => some (.disjunction, (Shorter.tail _ r).after _)
  | '-' :: r => (numberToken? true r).map fun (t, u) => (t, u.after _)
  | '\'' :: r => (quotedBody '\'' r).map fun (cs, u) => (.quoted (String.ofList cs), u.after _)
  | '"' :: r => (quotedBody '"' r).map fun (cs, u) => (.quoted (String.ofList cs), u.after _)
  | '\x60' :: r => (quotedBody '\x60' r).map fun (cs, u) => (.operator (String.ofList cs), u.after _)
  | c :: r =>
    if isWordStart c then
      let word := String.ofList (c :: r.takeWhile isWordChar)
      if reservedWords.contains word then none
      else some (.name word, ⟨r.dropWhile isWordChar, length_dropWhile_lt isWordChar c r⟩)
    else numberToken? false (c :: r)
  | [] => none

/-- Splits a text into tokens; `none` if a character starts no token. -/
def tokens? (s : List Char) : Option (List Token) :=
  match s with
  | [] => some []
  | c :: r =>
    if c = ' ' || c = '\t' || c = '\n' then tokens? r
    else
      match token? (c :: r) with
      | none => none
      | some (t, ⟨rest, h⟩) =>
        have : rest.length < r.length + 1 := h
        (tokens? rest).map (t :: ·)
termination_by s.length

end JsonPath

end GraphLift
