import GraphLift.Rdf.Datatype

/-! # The order of literals

    Literals are ordered by number where both are well typed numbers, and else by datatype, language, value and
    text, in this order. A literal without datatype counts as a string.

    This is no order in the strict sense: a text without value may lie between two numbers by its characters.
    `before` therefore says exactly which comparisons are made.
-/

namespace GraphLift

namespace Literal

/-- The datatype of strings. -/
def stringDatatype : String := xsdNamespace ++ "string"

/-- The datatype that a literal is ordered by. -/
def orderDatatype (l : Literal) : String :=
  match l.annotation with
  | .datatype d => d
  | _ => stringDatatype

/-- The language of a literal, or no characters. -/
def orderLanguage (l : Literal) : String :=
  match l.annotation with
  | .language tag => tag
  | _ => ""

/-- The language of a literal in lower case. -/
def foldedLanguage (l : Literal) : List Char :=
  l.orderLanguage.toList.map Char.toLower

/-- The order by text, where a plain literal comes before a string with the same text. -/
def textExceeds (a b : Literal) : Bool :=
  if a.text ≠ b.text then b.text < a.text
  else a.annotation ≠ b.annotation && b.annotation = .plain

/-- The first literal is above the second. -/
def exceeds (a b : Literal) : Except Failure Bool :=
  match a.number?, b.number? with
  | some v, some w => do return (← v.exceeds w).getD false
  | _, _ =>
    if a.orderDatatype ≠ b.orderDatatype then .ok (b.orderDatatype < a.orderDatatype)
    else if a.orderLanguage ≠ b.orderLanguage then .ok (b.orderLanguage < a.orderLanguage)
    else match a.value?, b.value? with
      | some v, some w => do return (← v.exceeds w).getD (a.textExceeds b)
      | _, _ => .ok (a.textExceeds b)

/-- Whether two literals mean the same; `none` if that cannot be told, because their texts differ and have no
    value. -/
def means? (a b : Literal) : Option Bool :=
  match a.number?, b.number? with
  | some v, some w => some (v.same w)
  | _, _ =>
    if a.foldedLanguage ≠ b.foldedLanguage then some false
    else if a.orderDatatype ≠ b.orderDatatype then some false
    else if a.orderDatatype = stringDatatype then some (a.text == b.text)
    else match a.value?, b.value? with
      | some v, some w => some (v.same w)
      | _, _ => if a.text = b.text then some true else none

/-- The first literal comes before the second: it is neither above it nor means the same. Where the latter
    cannot be told, the second must be above the first. -/
def before (a b : Literal) : Except Failure Bool := do
  if ← a.exceeds b then return false
  else match a.means? b with
    | some same => return !same
    | none => b.exceeds a

end Literal

end GraphLift
