/-! # Output formats

    The three forms in which a graph can be written, by the names that commands and configurations use.
-/

namespace GraphLift

/-- A form in which a graph can be written. -/
inductive Format where
  | turtle
  | rdfXml
  | jsonLd
  deriving DecidableEq, Repr

namespace Format

/-- All formats, by name. -/
def all : List (String × Format) :=
  [("jsonld", .jsonLd), ("rdfxml", .rdfXml), ("turtle", .turtle)]

/-- The format with a given name. -/
def named? (name : String) : Option Format :=
  (all.find? (·.1 == name)).map (·.2)

end Format

end GraphLift
