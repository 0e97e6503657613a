import GraphLift.Iri
import GraphLift.Mapping.Description
import GraphLift.MediaType
import GraphLift.Pattern.Expand
import GraphLift.Report.Traced
import GraphLift.Template.Basic

/-! # Who a resource is

    A resource that gets a text which is an absolute IRI bears that IRI; any other resource is a node of its
    own. A text that is there but is no IRI is reported.

    * **Subjects**: the constant, the expanded template, the format with the first value of the path, and the
      first value of the path are tried in this order.
    * **Node templates** have one instance per base value. The IRI of an instance comes from the constant, from
      the table of replacements, from the format, or is the base value itself.
-/

namespace GraphLift

variable [Library]

/-- The identity that a text gives. -/
def Identity.ofText (text : Option String) : Traced Identity :=
  match text with
  | none => pure .fresh
  | some s =>
    if Text.isBlank s then pure .fresh
    else if Iri.isAbsolute s then pure (.iri s)
    else do
      Traced.report (.notAbsolute s)
      return .fresh

/-- The text if it is not blank. -/
def notBlank? (s : Option String) : Option String :=
  if Text.isMissing s then none else s

namespace SubjectRule

/-- The expanded template. -/
def fromTemplate (r : SubjectRule) (f : Finder) : Except Failure (Option String) :=
  match r.template with
  | none => .ok none
  | some t => return some (← Pattern.expand { finder := some f } t)

/-- The format, filled in with the first value of the path. -/
def fromFormat (r : SubjectRule) (f : Finder) : Except Failure (Option String) :=
  match r.format, r.path with
  | some format, some path => do
    match ← f.first (some path) with
    | none => return none
    | some v => return some (← Pattern.expand { finder := some f, value := some v } format)
  | _, _ => .ok none

/-- The text that is to name the subject. -/
def text (r : SubjectRule) (f : Finder) : Except Failure (Option String) := do
  if let some s := notBlank? r.const then return some s
  if let some s ← r.fromTemplate f then return some s
  if let some s ← r.fromFormat f then return some s
  f.first r.path

/-- The identity of the subject in a scope. -/
def identity (r : SubjectRule) (f : Finder) : Traced Identity := do
  Identity.ofText (← Traced.lift (r.text f))

end SubjectRule

namespace NodeTemplate

/-- The base values of the instances. An instance without base value is there once. -/
def candidates (n : NodeTemplate) (f : Finder) : Except Failure (List (Option String)) :=
  if n.kind = .iri && !Text.isMissing n.const then .ok [none]
  else if Text.isMissing n.path then .ok [none]
  else do
    let bases ← f.values n.path
    return (if n.multi then bases else bases.take 1).map some

/-- The replacement of a base value: in lower case and without parameters, or else as it is. -/
def replacement (n : NodeTemplate) (base : String) : Option String :=
  (Json.lookup (Text.lowerCase (MediaType.stripParameters base)) n.valueMap).or (Json.lookup base n.valueMap)

/-- The format, filled in with the plain form of the base value. -/
def fromFormat (n : NodeTemplate) (base : Option String) (f : Finder) : Except Failure (Option String) :=
  match notBlank? n.format with
  | none => .ok none
  | some format =>
    return some (← Pattern.expand { finder := some f, value := some ((base.map MediaType.normalize).getD "") } format)

/-- The IRI of an instance as far as the base value decides: replacement, format, or the base value itself. -/
def fromBase (n : NodeTemplate) (base : Option String) (f : Finder) : Except Failure (Option String) := do
  let replaced := base.bind n.replacement
  let formatted ← if Text.isMissing replaced then (return (← n.fromFormat base f).or replaced) else pure replaced
  return if Text.isMissing formatted && base.any Iri.isAbsolute then base else formatted

/-- The text that is to name an instance; it is reported if there is none. -/
def iriFor (n : NodeTemplate) (base : Option String) (f : Finder) : Traced (Option String) := do
  if let some s := notBlank? n.const then return some s
  let base := base.map Text.trim
  let iri ← Traced.lift (n.fromBase base f)
  if Text.isMissing iri then Traced.report (.noIri n.id base)
  return iri

/-- The identity of an instance. -/
def identify (n : NodeTemplate) (base : Option String) (f : Finder) : Traced Identity :=
  match n.kind with
  | .anonymous => pure .fresh
  | .iri => do Identity.ofText (← n.iriFor base f)

end NodeTemplate

end GraphLift
