import GraphLift.Text.Codec

/-! # Text encodings

    Some encodings and the names that they are known by.

    * **UTF-8** is decoded strictly: no overlong form, no surrogate, nothing above the last code point.
      The signed variant drops one byte order mark at the front, and bytes that break off inside of it.
    * **Latin-1** gives every byte a character, **ASCII** the lower half only.
    * **Names** are compared in lower case, with one underscore for what stands between letters, digits and points. An
      encoding has its own name and aliases besides.
-/

namespace GraphLift.Text

/-- The encodings a file may be read in. -/
inductive Encoding where
  | utf8
  | utf8Signed
  | latin1
  | ascii
  deriving DecidableEq, Repr

/-- Why bytes are no text. -/
inductive DecodeCause where
  /-- The byte cannot start a character. -/
  | badStart
  /-- A byte that should continue a character does not. -/
  | badContinuation
  /-- The bytes end inside a character. -/
  | truncated
  /-- The byte is outside the seven-bit range. -/
  | outOfRange
  deriving DecidableEq, Repr

/-- The wording of a cause. -/
def DecodeCause.message : DecodeCause → String
  | .badStart => "invalid start byte"
  | .badContinuation => "invalid continuation byte"
  | .truncated => "unexpected end of data"
  | .outOfRange => "ordinal not in range(128)"

/-! ## UTF-8 -/

/-- What the first byte of a character announces: how many bytes follow, the range of the second byte, and
    the bits that the first byte contributes. -/
def leadByte (b : Nat) : Option (Nat × Nat × Nat × Nat) :=
  if b < 0x80 then some (0, 0, 0, b)
  else if b < 0xC2 then none
  else if b < 0xE0 then some (1, 0x80, 0xBF, b - 0xC0)
  else if b = 0xE0 then some (2, 0xA0, 0xBF, 0)
  else if b = 0xED then some (2, 0x80, 0x9F, 0xD)
  else if b < 0xF0 then some (2, 0x80, 0xBF, b - 0xE0)
  else if b = 0xF0 then some (3, 0x90, 0xBF, 0)
  else if b < 0xF4 then some (3, 0x80, 0xBF, b - 0xF0)
  else if b = 0xF4 then some (3, 0x80, 0x8F, 4)
  else none

/-- Reads `owed` further bytes of a character; the next one must lie between `low` and `high`. The result is
    the code point, or the cause and the number of good bytes so far. -/
def readTail (owed low high bits good : Nat) : List Nat → Except (DecodeCause × Nat) Nat
  | [] => if owed = 0 then .ok bits else .error (.truncated, good)
  | b :: rest =>
    match owed with
    | 0 => .ok bits
    | n + 1 =>
      if low ≤ b && b ≤ high then readTail n 0x80 0xBF (bits * 64 + (b - 0x80)) (good + 1) rest
      else .error (.badContinuation, good)

/-- Decodes UTF-8. `skip` bytes belong to the character before; `position` is that of the first byte. -/
def decodeUtf8 (skip position : Nat) : List Nat → Except DecodeError (List Char)
  | [] => .ok []
  | b :: rest =>
    match skip with
    | n + 1 => decodeUtf8 n (position + 1) rest
    | 0 =>
      match leadByte b with
      | none => .error ⟨"utf-8", position, 1, b, DecodeCause.badStart.message⟩
      | some (owed, low, high, bits) =>
        match readTail owed low high bits 1 rest with
        | .error (cause, good) => .error ⟨"utf-8", position, good, b, cause.message⟩
        | .ok n => (decodeUtf8 owed (position + 1) rest).map (Char.ofNat n :: ·)

/-- Decodes seven-bit bytes. -/
def decodeAscii (position : Nat) : List Nat → Except DecodeError (List Char)
  | [] => .ok []
  | b :: rest =>
    if b < 0x80 then (decodeAscii (position + 1) rest).map (Char.ofNat b :: ·)
    else .error ⟨"ascii", position, 1, b, DecodeCause.outOfRange.message⟩

/-- The characters of bytes. -/
def Encoding.decode (e : Encoding) : Codec := fun bytes =>
  let codes := bytes.map (·.toNat)
  match e with
  | .utf8 => decodeUtf8 0 0 codes
  | .utf8Signed =>
    match codes with
    | 0xEF :: 0xBB :: 0xBF :: rest => decodeUtf8 0 0 rest
    | [0xEF, 0xBB] | [0xEF] => .ok []
    | _ => decodeUtf8 0 0 codes
  | .latin1 => .ok (codes.map Char.ofNat)
  | .ascii => decodeAscii 0 codes

/-! ## Names -/

/-- A name in lower case, with one underscore for all that stands between letters, digits and points; `apart` tells that
    something was left out, and `first` that nothing was kept so far. -/
def normalizeName (first apart : Bool) : List Char → List Char
  | [] => []
  | c :: rest =>
    if c.isAlphanum || c == '.' then
      (if apart && !first then ['_'] else []) ++ c.toLower :: normalizeName false false rest
    else normalizeName first true rest

/-- The own name of an encoding, in normal form. -/
def Encoding.name : Encoding → String
  | .utf8 => "utf_8"
  | .utf8Signed => "utf_8_sig"
  | .latin1 => "latin_1"
  | .ascii => "ascii"

/-- What else encodings are called, in normal form. -/
def Encoding.aliases : List (String × Encoding) :=
  ["cp65001", "u8", "utf", "utf8", "utf8_ucs2", "utf8_ucs4"].map (·, .utf8) ++
  ["8859", "cp819", "csisolatin1", "ibm819", "iso8859", "iso8859_1", "iso_8859_1", "iso_8859_1_1987", "iso_ir_100", "l1",
    "latin", "latin1"].map (·, .latin1) ++
  ["646", "ansi_x3.4_1968", "ansi_x3.4_1986", "ansi_x3_4_1968", "cp367", "csascii", "ibm367", "iso646_us",
    "iso_646.irv_1991", "iso_ir_6", "us", "us_ascii"].map (·, .ascii)

/-- The encoding with a given name. A point may stand for an underscore in an alias, but not in the own name. -/
def Encoding.named? (name : String) : Option Encoding :=
  let key := normalizeName true false name.toList
  let aliased (key : String) := (aliases.find? (·.1 == key)).map (·.2)
  (aliased (String.ofList key)).or <|
    (aliased (String.ofList (key.map fun c => if c = '.' then '_' else c))).or <|
      [Encoding.utf8, .utf8Signed, .latin1, .ascii].find? (·.name == String.ofList key)

end GraphLift.Text
