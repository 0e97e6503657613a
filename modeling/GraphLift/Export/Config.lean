import GraphLift.Format
import GraphLift.Json.Basic

/-! # Root configurations

    A root configuration names the elements of an export, each with a template file and perhaps a type, the
    relations between them, the prefixes, and the output formats that are available.
-/

namespace GraphLift

/-- A kind of resource in an export. -/
structure Element where
  id : String
  /-- The type that wins over that of the template, as it was written. -/
  typeRef : Json
  file : String

/-- A predicate that links every resource of one element with every resource of another. -/
structure Relation where
  subject : String
  predicate : Json
  object : String

/-- Which output formats are available. -/
structure FormatFlags where
  turtle : Bool := true
  rdfXml : Bool := true
  jsonLd : Bool := true
  deriving DecidableEq, Repr

namespace FormatFlags

/-- The flag of a format. -/
def get (f : FormatFlags) : Format → Bool
  | .turtle => f.turtle
  | .rdfXml => f.rdfXml
  | .jsonLd => f.jsonLd

/-- Sets the flag of a format. -/
def set (f : FormatFlags) (format : Format) (on : Bool) : FormatFlags :=
  match format with
  | .turtle => { f with turtle := on }
  | .rdfXml => { f with rdfXml := on }
  | .jsonLd => { f with jsonLd := on }

/-- Names that count as available although no format has them. -/
def reservedNames : List String := [
  "is_available", "__annotations__", "__class__", "__dataclass_fields__", "__dataclass_params__", "__delattr__",
  "__dict__", "__dir__", "__doc__", "__eq__", "__format__", "__ge__", "__getattribute__", "__getstate__", "__gt__",
  "__hash__", "__init__", "__init_subclass__", "__le__", "__lt__", "__match_args__", "__module__", "__ne__",
  "__new__", "__reduce__", "__reduce_ex__", "__repr__", "__setattr__", "__sizeof__", "__str__",
  "__subclasshook__"]

/-- The format with a given name is available; of other names only the reserved ones are. An export in one of
    these gets as far as its graph and fails when that is written. -/
def isAvailable (f : FormatFlags) (name : String) : Bool :=
  match Format.named? name with
  | some format => f.get format
  | none => reservedNames.contains name

end FormatFlags

/-- What an export consists of. -/
structure RootConfig where
  /-- Reports everything, whatever the threshold is. -/
  trace : Bool
  prefixes : List (String × String)
  elements : List Element
  relations : List Relation
  formats : FormatFlags

end GraphLift
