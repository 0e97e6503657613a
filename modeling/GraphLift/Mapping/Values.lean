import GraphLift.Mapping.Identity
import GraphLift.PrefixTable

/-! # Values of properties

    The values of a property go through three steps.

    * **Base values**: the constant, or the results of the path, all of them or the first. A property with a
      format and neither of them has one empty base value.
    * **Replacement**: if there is a table, a value that is not in it is dropped.
    * **Format**: the pattern is filled in with the value.

    The texts that remain become literals or resources.
-/

namespace GraphLift

variable [Library]

namespace Property

/-- The values before replacement and format. -/
def baseValues (p : Property) (f : Finder) : Except Failure (List String) :=
  match p.const, p.path with
  | some c, _ => .ok [c]
  | none, some path => do
    let found ← f.values (some path)
    return if p.multi then found else found.take 1
  | none, none => .ok (if Text.isMissing p.format then [] else [""])

/-- The replacement of a value; a dropped value stays dropped. -/
def applyMap (p : Property) (value : Option String) : Option String :=
  value.bind fun v => if p.valueMap.isEmpty then some v else Json.lookup v p.valueMap

/-- The value in its format; a dropped value stays dropped. -/
def applyFormat (p : Property) (f : Finder) (value : Option String) : Except Failure (Option String) :=
  match notBlank? p.format, value with
  | some format, some v =>
    return some (← Pattern.expand { finder := some f, value := some v, indexed := p.indexedPaths } format)
  | _, _ => .ok value

/-- The values after replacement and format, dropped ones in their places. -/
def resolvedValues (p : Property) (f : Finder) : Except Failure (List (Option String)) := do
  (← p.baseValues f).mapM fun v => p.applyFormat f (p.applyMap (some v))

/-! ## Terms -/

/-- The datatype of the literals, expanded unless it starts as a web address. -/
def datatypeIri? (p : Property) (table : PrefixTable) : Except Failure (Option String) :=
  match notBlank? p.datatype with
  | none => .ok none
  | some d =>
    if "http".toList.isPrefixOf d.toList then .ok (some d)
    else do
      match ← table.expand d with
      | none | some "" => return some d
      | some iri => return notBlank? (some iri)

/-- The literal of a value: with a datatype if there is one, or else with a language if there is one. -/
def literal (p : Property) (table : PrefixTable) (value : String) : Except Failure Literal := do
  match ← p.datatypeIri? table with
  | some d => return Literal.typed value d
  | none =>
    match notBlank? p.lang with
    | some tag =>
      if Library.isLanguageTag tag then return ⟨value, .language tag⟩
      else throw (.value (.badLanguage tag))
    | none => return Literal.plain value

/-- The objects of a property that does not refer to a node template. -/
def terms (p : Property) (table : PrefixTable) (f : Finder) : Traced (List Value) := do
  let values := (← Traced.lift (p.resolvedValues f)).filterMap id
  match p.kind with
  | .literal => Traced.lift (values.mapM fun v => return Value.literal (← p.literal table v))
  | .iri =>
    (values.filter (!Text.isBlank ·)).mapM fun v =>
      return Value.resource (Description.bare (← Identity.ofText (some v)))
  | .nodeRef => throw (.value .noValues)

end Property

end GraphLift
