import GraphLift.Text.Blank
import GraphLift.Text.LetterCase

/-! # Media types

    A media type is a type and a subtype with a slash between them. It may carry parameters after a semicolon and may
    be spelled in any letter case. Its plain form has neither parameters nor capitals, so that it can become part of an
    IRI.
-/

namespace GraphLift

namespace MediaType

/-- The trimmed text before the first semicolon. -/
def stripParameters (s : String) : String :=
  Text.trim (String.ofList ((Text.trim s).toList.takeWhile (· != ';')))

/-- What stands before and behind the slash, if there is just one and neither part is blank. -/
def parts? (s : List Char) : Option (List Char × List Char) :=
  match s.dropWhile (· != '/') with
  | '/' :: subtype =>
    let type := s.takeWhile (· != '/')
    if subtype.contains '/' || (Text.trimChars type).isEmpty || (Text.trimChars subtype).isEmpty then none
    else some (type, subtype)
  | _ => none

/-- The plain form of a media type. A value of another form is lower-cased without its parameters, too. -/
def normalize (s : String) : String :=
  let plain := Text.lowerCase (stripParameters s)
  match parts? plain.toList with
  | some (type, subtype) => String.ofList (type ++ '/' :: subtype)
  | none => plain

end MediaType

end GraphLift
