/-! # Codecs

    Files are bytes; a codec turns them into characters or says why it cannot.

    * **Errors** say which bytes are no text, and why.
    * **Line ends**: a text file's carriage returns, alone or before a line feed, read as line feeds.
-/

namespace GraphLift.Text

/-- Bytes that are no text: where they start, how many they are, which comes first and what is wrong with them. -/
structure DecodeError where
  codec : String
  position : Nat
  count : Nat
  byte : Nat
  cause : String
  deriving DecidableEq, Repr

/-- Two hexadecimal digits. -/
private def byteText (n : Nat) : String :=
  String.ofList [Nat.digitChar (n / 16 % 16), Nat.digitChar (n % 16)]

/-- The wording of an error: one byte is shown, several are given by their positions. -/
def DecodeError.message (e : DecodeError) : String :=
  if e.count ≤ 1 then
    s!"'{e.codec}' codec can't decode byte 0x{byteText e.byte} in position {e.position}: {e.cause}"
  else
    s!"'{e.codec}' codec can't decode bytes in position {e.position}-{e.position + e.count - 1}: {e.cause}"

/-- Turns bytes into characters. -/
abbrev Codec := List UInt8 → Except DecodeError (List Char)

/-! ## Text files -/

/-- Carriage returns, with the line feed that may follow, become line feeds. -/
def unifyLineEnds : List Char → List Char
  | [] => []
  | '\r' :: '\n' :: rest => '\n' :: unifyLineEnds rest
  | '\r' :: rest => '\n' :: unifyLineEnds rest
  | c :: rest => c :: unifyLineEnds rest

/-- The text of a file with these bytes. -/
def Codec.read (codec : Codec) (bytes : List UInt8) : Except DecodeError String :=
  (codec bytes).map fun cs => String.ofList (unifyLineEnds cs)

end GraphLift.Text
