import GraphLift.Rdf.Order
import GraphLift.Turtle.Naming

/-! # Literals in a Turtle text

    * **Quotes**: a text on one line stands between double quotes, a text with line ends between triple quotes,
      where its line ends and single quotes stay as they are.
    * **Bare forms**: whole numbers, truth values, decimal numbers and doubles of the schema datatypes stand
      without quotes if the text is a value of the datatype and no infinite one. A decimal number gets a point,
      a double is written with seven digits.
-/

namespace GraphLift

namespace Turtle

/-- A character between double quotes on one line. -/
def escapeInLine (c : Char) : List Char :=
  if c = '\\' then ['\\', '\\']
  else if c = '"' then ['\\', '"']
  else if c = '\r' then ['\\', 'r']
  else [c]

/-- Backslashes doubled. -/
def doubleBackslashes (s : List Char) : List Char :=
  s.flatMap fun c => if c = '\\' then ['\\', '\\'] else [c]

/-- Every run of three quotes escaped. -/
def escapeTriples : List Char → List Char
  | '"' :: '"' :: '"' :: rest => '\\' :: '"' :: '\\' :: '"' :: '\\' :: '"' :: escapeTriples rest
  | c :: rest => c :: escapeTriples rest
  | [] => []

/-- The text with its last character escaped if that is a quote which is not escaped yet. -/
def escapeLastQuote (s : List Char) : List Char :=
  match s.reverse with
  | '"' :: c :: rest => if c = '\\' then s else (c :: rest).reverse ++ ['\\', '"']
  | _ => s

/-- A text between triple quotes. -/
def tripleQuoted (s : List Char) : List Char :=
  let escaped := escapeLastQuote (escapeTriples (doubleBackslashes s))
  let inner := escaped.flatMap fun c => if c = '\r' then ['\\', 'r'] else [c]
  ['"', '"', '"'] ++ inner ++ ['"', '"', '"']

/-- A text between quotes. -/
def quote (s : String) : String :=
  let cs := s.toList
  String.ofList (if cs.contains '\n' then tripleQuoted cs else '"' :: (cs.flatMap escapeInLine ++ ['"']))

/-- The form without quotes of a literal of a datatype, if it has one: that of a whole number, a truth value, or
    a finite decimal number or double. -/
def bare? (l : Literal) : Option String :=
  match l.annotation with
  | .datatype d =>
    if d = xsdNamespace ++ "integer" || d = xsdNamespace ++ "boolean" then l.value?.map fun _ => l.text
    else if d = xsdNamespace ++ "double" then
      match l.value? with
      | some (.double (.number (.finite negative m e))) => some (Binary64.scientific negative m e)
      | _ => none
    else if d = xsdNamespace ++ "decimal" then
      l.value?.bind fun _ =>
        match Double.read? l.text with
        | some (.number (.finite ..)) => some (pointed l.text)
        | _ => none
    else none
  | _ => none
where
  /-- A decimal number with a point. -/
  pointed (s : String) : String :=
    if s.toList.any (fun c => c = '.' || c = 'e' || c = 'E') then s else s ++ ".0"

/-- The text between the quotes: what is no finite number is named as the schema datatypes name it. -/
def quotedText (l : Literal) : String :=
  match l.value? with
  | some (.double (.number (.infinite negative))) | some (.decimal (.infinite negative)) =>
    if negative then "-INF" else "INF"
  | some (.double .undefined) => "NaN"
  | _ => l.text

/-- The literal as it is written. -/
def literalText (n : Naming) (l : Literal) : String :=
  match l.annotation with
  | .plain => quote l.text
  | .language tag => quote l.text ++ "@" ++ tag
  | .datatype d => (bare? l).getD (quote (quotedText l) ++ "^^" ++ n.datatypeText d)

end Turtle

end GraphLift
