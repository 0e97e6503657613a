import GraphLift.Json.Display

/-! # Events

    What a run reports besides its result. An event is data; its severity, the part of the library that raises
    it and its wording are functions on it.

    * **Severity** orders events; a reader sees those at or above a threshold.
    * **Records** are events as a run keeps them: a traced run marks its records, and a marked record is seen
      whatever the threshold is.
-/

namespace GraphLift

/-- How serious a report is. -/
inductive Severity where
  | debug
  | info
  | warning
  | error
  deriving DecidableEq, Repr

/-- The rank of a severity, the least serious first. -/
def Severity.rank : Severity → Nat
  | .debug => 0
  | .info => 1
  | .warning => 2
  | .error => 3

/-- The name of a severity. -/
def Severity.name : Severity → String
  | .debug => "DEBUG"
  | .info => "INFO"
  | .warning => "WARNING"
  | .error => "ERROR"

/-- The part of the library that raises an event. -/
inductive Origin where
  /-- Evaluating values. -/
  | values
  /-- Deciding on identities. -/
  | identity
  /-- Describing resources by a template. -/
  | mapping
  /-- Mapping and linking the elements of an export. -/
  | exporting
  /-- Reading configurations. -/
  | reader
  /-- Writing graphs. -/
  | writer
  deriving DecidableEq, Repr

/-- The name of a part of the library. -/
def Origin.name : Origin → String
  | values => "values"
  | identity => "identity"
  | mapping => "mapping"
  | exporting => "export"
  | reader => "reader"
  | writer => "writer"

/-- Something a run reports. -/
inductive Event where
  /-- A text that is to name a resource is no absolute IRI. -/
  | notAbsolute (text : String)
  /-- A node template found no IRI for a base value. -/
  | noIri (node : String) (base : Option String)
  /-- The scope path of a template selects nothing. -/
  | scopeEmpty (path : String)
  /-- The reference of a type does not expand. -/
  | typeUnknown (reference : String)
  /-- The predicate of a property does not expand, so the property is left out. -/
  | predicateUnknown (key reference : String)
  /-- A property refers to a node template that does not exist, noticed while mapping. -/
  | nodeUnknown (node : Option String) (predicate : String)
  /-- An element has been mapped to this many subjects. -/
  | elementMapped (id : String) (count : Nat)
  /-- The predicate of a relation does not expand, so the relation is left out. -/
  | relationSkipped (subject object predicate : String)
  /-- A property refers to a node template that does not exist, noticed while reading the template. -/
  | danglingNode (place key : String) (node : Option String)
  /-- A flag names no output format. -/
  | formatUnknown (name : String)
  /-- A graph has been written to a file. -/
  | written (count : Nat) (format path : String)
  deriving DecidableEq, Repr

namespace Event

/-- How serious an event is. -/
def severity : Event → Severity
  | nodeUnknown .. | danglingNode .. | formatUnknown .. => .warning
  | written .. => .info
  | _ => .debug

/-- Where an event is raised. -/
def origin : Event → Origin
  | notAbsolute .. => .values
  | noIri .. => .identity
  | scopeEmpty .. | typeUnknown .. | predicateUnknown .. | nodeUnknown .. => .mapping
  | elementMapped .. | relationSkipped .. => .exporting
  | danglingNode .. | formatUnknown .. => .reader
  | written .. => .writer

/-- The wording of an event. -/
def message : Event → String
  | notAbsolute text => "Not an absolute IRI, using blank node: " ++ Text.quoted text
  | noIri node base => "No IRI for node " ++ Text.quoted node ++ " from base " ++ displayOption base
  | scopeEmpty path => "Scope " ++ Text.quoted path ++ " matched nothing"
  | typeUnknown reference => "Cannot expand type " ++ Text.quoted reference
  | predicateUnknown key reference =>
    "Skipping " ++ Text.quoted key ++ ": cannot expand predicate " ++ Text.quoted reference
  | nodeUnknown node predicate =>
    "Unknown node template " ++ displayOption node ++ " for predicate " ++ Text.quoted predicate
  | elementMapped id count => s!"Element {Text.quoted id} emitted {count} subject(s)"
  | relationSkipped subject object predicate =>
    s!"Skipping relation {subject} -> {object}: cannot expand {Text.quoted predicate}"
  | danglingNode place key node => s!"{place}.props.{key} refers to unknown node {displayOption node}"
  | formatUnknown name => "Ignoring unknown output format flag " ++ Text.quoted name
  | written count format path => s!"Wrote {count} triple(s) as {format} to {path}"

end Event

/-- An event as a run keeps it. -/
structure Record where
  event : Event
  /-- Seen whatever the threshold is. -/
  marked : Bool
  deriving DecidableEq, Repr

/-- A reader with this threshold sees the record. -/
def Record.isSeen (threshold : Severity) (r : Record) : Bool :=
  r.marked || threshold.rank ≤ r.event.severity.rank

end GraphLift
