import GraphLift.Json.Basic
import GraphLift.Text.Numeral

/-! # Reading JSON

    `Json.parse` reads a text as one JSON value, or says what is wrong and where.

    * **Blanks** between tokens are space, tab, line feed and carriage return.
    * **Strings** may hold any character but the control characters below the space; an escaped surrogate pair
      is one character. Half a pair is read as the replacement character U+FFFD, since no `Char` can hold it.
    * **Objects** keep the last value of a repeated name at the name's first place.
    * **Whole numbers** of more digits than are read are refused as such.
    * **Doubles** may also be written as the words `NaN`, `Infinity` and `-Infinity`.
    * **Faults** are located by the number of characters that were left; `ParseError` turns that into line,
      column and offset.
-/

namespace GraphLift

namespace Json

/-- What is wrong with a text that is not JSON. -/
inductive ParseCause where
  | expectedValue
  | expectedName
  | expectedColon
  | expectedComma
  | unterminatedString
  | controlCharacter
  | badEscape
  | badCodePoint
  | extraText
  | byteOrderMark
  /-- A whole number has more digits than are read. -/
  | tooManyDigits (count : Nat)
  deriving DecidableEq, Repr

/-- A fault: the cause, and how many characters were left where it was found. -/
structure Fault where
  cause : ParseCause
  left : Nat

/-- What remains of `s` after at least one character was read. -/
abbrev Rest (s : List Char) := { r : List Char // r.length < s.length }

/-- The outcome of reading something off the front of `s`. -/
abbrev Reading (α : Type) (s : List Char) := Except Fault (α × Rest s)

/-! ## Blanks and digits -/

/-- A blank between tokens. -/
def isSpace (c : Char) : Bool :=
  c = ' ' || c = '\t' || c = '\n' || c = '\r'

/-- The text without the blanks in front. -/
def skipSpace (s : List Char) : List Char :=
  s.dropWhile isSpace

theorem length_dropWhile_le (p : Char → Bool) (s : List Char) : (s.dropWhile p).length ≤ s.length :=
  (List.dropWhile_suffix p).length_le

theorem length_skipSpace_le (s : List Char) : (skipSpace s).length ≤ s.length :=
  length_dropWhile_le isSpace s

/-- The code unit of four hexadecimal digits. -/
def codeUnit? (a b c d : Char) : Option Nat := do
  let high := (← Text.hexValue? a) * 16 + (← Text.hexValue? b)
  let low := (← Text.hexValue? c) * 16 + (← Text.hexValue? d)
  return high * 256 + low

/-! ## Strings -/

/-- The character that a one-letter escape stands for. -/
def escaped? (c : Char) : Option Char :=
  match c with
  | '"' => some '"'
  | '\\' => some '\\'
  | '/' => some '/'
  | 'b' => some '\x08'
  | 'f' => some '\x0c'
  | 'n' => some '\n'
  | 'r' => some '\r'
  | 't' => some '\t'
  | _ => none

/-- The first half of a surrogate pair. -/
def isHighSurrogate (n : Nat) : Bool := 0xD800 ≤ n && n ≤ 0xDBFF

/-- The second half of a surrogate pair. -/
def isLowSurrogate (n : Nat) : Bool := 0xDC00 ≤ n && n ≤ 0xDFFF

/-- Stands for half a surrogate pair. -/
def replacement : Char := '\uFFFD'

/-- The characters of a pending first half that no second half followed. -/
def flushPending : Option Nat → List Char
  | none => []
  | some _ => [replacement]

/-- Reads a string after its opening quote, where `start` characters were left; `pending` is the first half
    of a surrogate pair right before. -/
def stringBody (start : Nat) (pending : Option Nat) : (s : List Char) → Reading (List Char) s
  | [] => .error ⟨.unterminatedString, start⟩
  | '"' :: r => .ok (flushPending pending, ⟨r, Nat.lt_succ_self _⟩)
  | ['\\'] => .error ⟨.unterminatedString, start⟩
  | '\\' :: 'u' :: a :: b :: c :: d :: e :: r =>
    match codeUnit? a b c d with
    | none => .error ⟨.badCodePoint, r.length + 6⟩
    | some n =>
      match pending with
      | some high =>
        if isLowSurrogate n then do
          let (cs, ⟨t, ht⟩) ← stringBody start none (e :: r)
          let joined := Char.ofNat (0x10000 + (high - 0xD800) * 0x400 + (n - 0xDC00))
          return (joined :: cs, ⟨t, by simp only [List.length_cons] at ht ⊢; omega⟩)
        else if isHighSurrogate n then do
          let (cs, ⟨t, ht⟩) ← stringBody start (some n) (e :: r)
          return (replacement :: cs, ⟨t, by simp only [List.length_cons] at ht ⊢; omega⟩)
        else do
          let (cs, ⟨t, ht⟩) ← stringBody start none (e :: r)
          return (replacement :: Char.ofNat n :: cs, ⟨t, by simp only [List.length_cons] at ht ⊢; omega⟩)
      | none =>
        if isHighSurrogate n then do
          let (cs, ⟨t, ht⟩) ← stringBody start (some n) (e :: r)
          return (cs, ⟨t, by simp only [List.length_cons] at ht ⊢; omega⟩)
        else do
          let (cs, ⟨t, ht⟩) ← stringBody start none (e :: r)
          let here := if isLowSurrogate n then replacement else Char.ofNat n
          return (here :: cs, ⟨t, by simp only [List.length_cons] at ht ⊢; omega⟩)
  | '\\' :: 'u' :: r => .error ⟨.badCodePoint, r.length + 1⟩
  | '\\' :: c :: r =>
    match escaped? c with
    | none => .error ⟨.badEscape, r.length + 2⟩
    | some x => do
      let (cs, ⟨t, ht⟩) ← stringBody start none r
      return (flushPending pending ++ x :: cs, ⟨t, by simp only [List.length_cons] at ht ⊢; omega⟩)
  | c :: r =>
    if c.toNat < 0x20 then .error ⟨.controlCharacter, r.length + 1⟩
    else do
      let (cs, ⟨t, ht⟩) ← stringBody start none r
      return (flushPending pending ++ c :: cs, ⟨t, by simp only [List.length_cons] at ht ⊢; omega⟩)

/-! ## Numbers -/

/-- Reads digits after a point, if there are any. -/
def fraction (s : List Char) : List Char × { r : List Char // r.length ≤ s.length } :=
  match s with
  | '.' :: c :: r =>
    if Text.isAsciiDigit c then
      ((c :: r).takeWhile Text.isAsciiDigit,
        ⟨r.dropWhile Text.isAsciiDigit,
          Nat.le_succ_of_le (Nat.le_succ_of_le (length_dropWhile_le Text.isAsciiDigit r))⟩)
    else ([], ⟨'.' :: c :: r, Nat.le_refl _⟩)
  | s => ([], ⟨s, Nat.le_refl _⟩)

/-- Reads an exponent, if there is a whole one. -/
def exponent (s : List Char) : Option Int × { r : List Char // r.length ≤ s.length } :=
  match s with
  | c :: r =>
    if c = 'e' || c = 'E' then
      let (negative, t) : Bool × { t : List Char // t.length ≤ r.length } :=
        match r with
        | '-' :: u => (true, ⟨u, Nat.le_succ _⟩)
        | '+' :: u => (false, ⟨u, Nat.le_succ _⟩)
        | u => (false, ⟨u, Nat.le_refl _⟩)
      let ds := t.1.takeWhile Text.isAsciiDigit
      if ds.isEmpty then (none, ⟨c :: r, Nat.le_refl _⟩)
      else
        let n : Int := Text.readDigits 0 ds
        (some (if negative then -n else n),
          ⟨t.1.dropWhile Text.isAsciiDigit,
            Nat.le_succ_of_le (Nat.le_trans (length_dropWhile_le Text.isAsciiDigit t.1) t.2)⟩)
    else (none, ⟨c :: r, Nat.le_refl _⟩)
  | [] => (none, ⟨[], Nat.le_refl _⟩)

/-- Reads the digits of an unsigned whole number: a zero alone or digits that do not start with zero. -/
def wholeDigits? (s : List Char) : Option (List Char × Rest s) :=
  match s with
  | '0' :: r => some (['0'], ⟨r, Nat.lt_succ_self _⟩)
  | c :: r =>
    if Text.isAsciiDigit c then
      some (c :: r.takeWhile Text.isAsciiDigit,
        ⟨r.dropWhile Text.isAsciiDigit, Nat.lt_succ_of_le (length_dropWhile_le Text.isAsciiDigit r)⟩)
    else none
  | [] => none

/-- Reads an unsigned number. -/
def unsigned? (negative : Bool) (s : List Char) : Option (Json × Rest s) :=
  match wholeDigits? s with
  | none => none
  | some (whole, ⟨r, hr⟩) =>
    let (decimals, ⟨t, ht⟩) := fraction r
    let (power, ⟨u, hu⟩) := exponent t
    let value :=
      if decimals.isEmpty && power.isNone then
        let n : Int := Text.readDigits 0 whole
        Json.int (if negative then -n else n)
      else
        Json.real (.number (Binary64.ofDecimal negative (Text.readDigits 0 (whole ++ decimals))
          (power.getD 0 - decimals.length)))
    some (value, ⟨u, by omega⟩)

/-- The number of digits of an unsigned whole number without fraction and exponent, if there are too many. -/
def overlong? (s : List Char) : Option Nat :=
  match wholeDigits? s with
  | some (whole, ⟨r, _⟩) =>
    if whole.length > Text.maxDigits && (fraction r).1.isEmpty && (exponent (fraction r).2.1).1.isNone then
      some whole.length
    else none
  | none => none

/-- The text without a minus sign at its front. -/
def withoutMinus : List Char → List Char
  | '-' :: r => r
  | s => s

/-- Reads a number. -/
def number? (s : List Char) : Option (Json × Rest s) :=
  match s with
  | '-' :: r => (unsigned? true r).map fun (v, ⟨t, ht⟩) => (v, ⟨t, by simp only [List.length_cons]; omega⟩)
  | s => unsigned? false s

/-- Reads a double that is written as a word. -/
def numberWord? (s : List Char) : Option (Double × Rest s) :=
  match s with
  | 'N' :: 'a' :: 'N' :: r => some (.undefined, ⟨r, by simp only [List.length_cons]; omega⟩)
  | 'I' :: 'n' :: 'f' :: 'i' :: 'n' :: 'i' :: 't' :: 'y' :: r =>
    some (.number (.infinite false), ⟨r, by simp only [List.length_cons]; omega⟩)
  | '-' :: 'I' :: 'n' :: 'f' :: 'i' :: 'n' :: 'i' :: 't' :: 'y' :: r =>
    some (.number (.infinite true), ⟨r, by simp only [List.length_cons]; omega⟩)
  | _ => none

/-! ## Values -/

mutual

/-- Reads a value whose first character is the first of `s`. -/
def value (s : List Char) : Reading Json s :=
  match s with
  | '"' :: r => do
    let (cs, ⟨t, ht⟩) ← stringBody (r.length + 1) none r
    return (.text (String.ofList cs), ⟨t, by simp only [List.length_cons]; omega⟩)
  | '[' :: r =>
    have hr := length_skipSpace_le r
    match h : skipSpace r with
    | ']' :: t => .ok (.array [], ⟨t, by simp only [h, List.length_cons] at hr ⊢; omega⟩)
    | _ => do
      let (vs, ⟨t, ht⟩) ← items (skipSpace r)
      return (.array vs, ⟨t, by simp only [List.length_cons]; omega⟩)
  | '\x7b' :: r =>
    have hr := length_skipSpace_le r
    match h : skipSpace r with
    | '\x7d' :: t => .ok (.object [], ⟨t, by simp only [h, List.length_cons] at hr ⊢; omega⟩)
    | _ => do
      let (ms, ⟨t, ht⟩) ← members (skipSpace r)
      return (.object (collect ms), ⟨t, by simp only [List.length_cons]; omega⟩)
  | 'n' :: 'u' :: 'l' :: 'l' :: r => .ok (.null, ⟨r, by simp only [List.length_cons]; omega⟩)
  | 't' :: 'r' :: 'u' :: 'e' :: r => .ok (.bool true, ⟨r, by simp only [List.length_cons]; omega⟩)
  | 'f' :: 'a' :: 'l' :: 's' :: 'e' :: r => .ok (.bool false, ⟨r, by simp only [List.length_cons]; omega⟩)
  | s =>
    match numberWord? s with
    | some (x, r) => .ok (.real x, r)
    | none =>
      match overlong? (withoutMinus s) with
      | some count => .error ⟨.tooManyDigits count, s.length⟩
      | none =>
        match number? s with
        | some (v, r) => .ok (v, r)
        | none => .error ⟨.expectedValue, s.length⟩
termination_by (s.length, 0)

/-- Reads values up to the bracket that closes their array. -/
def items (s : List Char) : Reading (List Json) s := do
  let (v, ⟨r, hr⟩) ← value s
  have hs := length_skipSpace_le r
  match h : skipSpace r with
  | ']' :: t => return ([v], ⟨t, by simp only [h, List.length_cons] at hs; omega⟩)
  | ',' :: t =>
    have ht := length_skipSpace_le t
    have : (skipSpace t).length < s.length := by simp only [h, List.length_cons] at hs; omega
    let (vs, ⟨u, hu⟩) ← items (skipSpace t)
    return (v :: vs, ⟨u, by omega⟩)
  | t => .error ⟨.expectedComma, t.length⟩
termination_by (s.length, 1)

/-- Reads members up to the brace that closes their object. -/
def members (s : List Char) : Reading (List (String × Json)) s :=
  match s with
  | '"' :: r => do
    let (cs, ⟨a, ha⟩) ← stringBody (r.length + 1) none r
    have h₁ := length_skipSpace_le a
    match h : skipSpace a with
    | ':' :: b =>
      have h₂ := length_skipSpace_le b
      have : (skipSpace b).length < r.length := by simp only [h, List.length_cons] at h₁; omega
      let (v, ⟨c, hc⟩) ← value (skipSpace b)
      have h₃ := length_skipSpace_le c
      match h' : skipSpace c with
      | '\x7d' :: t => return ([(String.ofList cs, v)], ⟨t, by simp only [h', List.length_cons] at h₃ ⊢; omega⟩)
      | ',' :: t =>
        have h₄ := length_skipSpace_le t
        have : (skipSpace t).length < r.length := by simp only [h', List.length_cons] at h₃; omega
        let (ms, ⟨u, hu⟩) ← members (skipSpace t)
        return ((String.ofList cs, v) :: ms, ⟨u, by simp only [List.length_cons]; omega⟩)
      | t => .error ⟨.expectedComma, t.length⟩
    | b => .error ⟨.expectedColon, b.length⟩
  | s => .error ⟨.expectedName, s.length⟩
termination_by (s.length, 1)

end

/-! ## Whole texts -/

/-- Why a text is not JSON: the cause and its place; lines and columns count from one, offsets from zero. -/
structure ParseError where
  cause : ParseCause
  line : Nat
  column : Nat
  offset : Nat
  deriving DecidableEq, Repr

/-- The wording of a cause. -/
def ParseCause.message : ParseCause → String
  | .expectedValue => "Expecting value"
  | .expectedName => "Expecting property name enclosed in double quotes"
  | .expectedColon => "Expecting ':' delimiter"
  | .expectedComma => "Expecting ',' delimiter"
  | .unterminatedString => "Unterminated string starting at"
  | .controlCharacter => "Invalid control character at"
  | .badEscape => "Invalid \\escape"
  | .badCodePoint => "Invalid \\uXXXX escape"
  | .extraText => "Extra data"
  | .byteOrderMark => "Unexpected UTF-8 BOM (decode using utf-8-sig)"
  | .tooManyDigits count => Text.tooManyDigitsText count

/-- The wording of an error. -/
def ParseError.message (e : ParseError) : String :=
  s!"{e.cause.message}: line {e.line} column {e.column} (char {e.offset})"

/-- Locates a fault in the text it was found in. -/
def Fault.locate (text : List Char) (f : Fault) : ParseError :=
  let offset := text.length - f.left
  let passed := (text.take offset).reverse
  ⟨f.cause, passed.count '\n' + 1, (passed.takeWhile (· != '\n')).length + 1, offset⟩

/-- Reads a text that holds one value and blanks around it. -/
def readDocument (text : List Char) : Except Fault Json :=
  match text with
  | '\uFEFF' :: _ => .error ⟨.byteOrderMark, text.length⟩
  | _ => do
    let (v, ⟨r, _⟩) ← value (skipSpace text)
    match skipSpace r with
    | [] => return v
    | t => .error ⟨.extraText, t.length⟩

/-- The JSON value that a text holds. -/
def parse (text : String) : Except ParseError Json :=
  (readDocument text.toList).mapError (Fault.locate text.toList)

end Json

end GraphLift
