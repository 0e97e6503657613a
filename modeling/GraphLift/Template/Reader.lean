import GraphLift.Json.Compact
import GraphLift.Template.Flag
import GraphLift.Template.References

/-! # Reading templates

    A template is written as a JSON object:

        {"scope": path, "type": reference, "subject": {…}, "props": {key: property}, "nodes": {id: node}}

    * **Members** that are absent read as null, and null stands for nothing.
    * **Refusal** names the place and the fault that comes first: the subject, then the node templates in order,
      then the properties of the resource.
    * **Types** given from outside win over the type that the template names.
-/

namespace GraphLift

namespace Template

/-- The members of an object. -/
abbrev Members := List (String × Json)

/-! ## Kinds of members -/

/-- A text, or nothing. -/
def textMember (members : Members) (place name : String) : Except ConfigError (Option String) :=
  match Json.field members name with
  | .null => .ok none
  | .text s => .ok (some s)
  | v => .error (.notText place name v.kindName)

/-- A table of texts. A null target leaves its key out, any other target is taken as text. -/
def mapMember (members : Members) (place : String) : Except ConfigError (List (String × String)) :=
  match Json.field members "map" with
  | .null => .ok []
  | .object entries => .ok (entries.filterMap fun e => e.2.asText.map fun s => (e.1, s))
  | _ => .error (.notObject (place ++ ".map"))

/-- A list of texts; what counts as nothing is empty. -/
def pathsMember (members : Members) (place : String) : Except ConfigError (List String) :=
  let raw := Json.field members "jsonPaths"
  if !raw.isTruthy then .ok []
  else match raw with
    | .array items =>
      match items.mapM text? with
      | some paths => .ok paths
      | none => .error (.badPaths place)
    | _ => .error (.badPaths place)
where
  /-- The text that a value is. -/
  text? : Json → Option String
    | .text s => some s
    | _ => none

/-- The kind of a property's values; literals unless stated otherwise. -/
def valueKindMember (members : Members) (place : String) : Except ConfigError ValueKind :=
  match Json.lookup "as" members with
  | none | some (.text "literal") => .ok .literal
  | some (.text "iri") => .ok .iri
  | some (.text "node-ref") => .ok .nodeRef
  | some v => .error (.badValueKind place v)

/-- The kind of a node template; anonymous unless stated otherwise. -/
def nodeKindMember (members : Members) (place : String) : Except ConfigError NodeKind :=
  match Json.lookup "kind" members with
  | none | some (.text "bnode") => .ok .anonymous
  | some (.text "iri") => .ok .iri
  | some v => .error (.badNodeKind place v)

/-- A table of objects; what counts as nothing is empty. -/
def objectMember (members : Members) (name : String) : Except ConfigError Members :=
  let raw := Json.field members name
  if !raw.isTruthy then .ok []
  else match raw with
    | .object entries => .ok entries
    | _ => .error (.notObject name)

/-! ## Properties -/

/-- A text that is there and not empty. -/
def nonempty? : Option String → Option String
  | some s => if s = "" then none else some s
  | none => none

/-- Reads the members of a property. -/
def propertyOfMembers (place : String) (members : Members) : Except ConfigError Property := do
  let some predicate := nonempty? (← textMember members place "predicate") | throw (.noPredicate place)
  let kind ← valueKindMember members place
  let node ← textMember members place "node"
  if kind = .nodeRef && (nonempty? node).isNone then throw (.noNode place)
  let indexedPaths ← pathsMember members place
  let path ← textMember members place "json"
  let format ← textMember members place "format"
  let valueMap ← mapMember members place
  let lang ← textMember members place "lang"
  let datatype ← textMember members place "datatype"
  return {
    predicate, kind, path, indexedPaths, format, valueMap, lang, datatype, node
    const := (Json.field members "const").asText
    multi := (Json.field members "multi").toFlag false }

/-- Reads a property under its key. -/
def readProperty (key : String) (raw : Json) : Except ConfigError Property :=
  let place := "props." ++ key
  match raw with
  | .object members => propertyOfMembers place members
  | _ => .error (.notObject place)

/-- Reads the properties of a resource or a node template. -/
def propertiesMember (members : Members) (place : String) : Except ConfigError (List (String × Property)) :=
  match Json.field members "props" with
  | .null => .ok []
  | .object entries => entries.mapM fun e => do return (e.1, ← readProperty e.1 e.2)
  | _ => .error (.notObject (place ++ ".props"))

/-! ## Node templates -/

/-- Reads the members of a node template. -/
def nodeOfMembers (id place : String) (members : Members) : Except ConfigError NodeTemplate := do
  let kind ← nodeKindMember members place
  let const ← textMember members place "const"
  let path ← textMember members place "json"
  let format ← textMember members place "format"
  let typeRef ← textMember members place "type"
  let valueMap ← mapMember members place
  let properties ← propertiesMember members place
  return {
    id, kind, const, path, format, typeRef, valueMap, properties
    multi := (Json.field members "multi").toFlag false }

/-- Reads a node template under its name. -/
def readNode (id : String) (raw : Json) : Except ConfigError NodeTemplate :=
  let place := "nodes." ++ id
  match raw with
  | .object members => nodeOfMembers id place members
  | _ => .error (.notObject place)

/-! ## Resource templates -/

/-- Reads a subject rule. -/
def readSubject (members : Members) : Except ConfigError SubjectRule := do
  let const ← textMember members "subject" "const"
  let template ← textMember members "subject" "template"
  let format ← textMember members "subject" "format"
  let path ← textMember members "subject" "json"
  return { const, template, format, path }

/-- The type from outside, if it counts as something, or else the type that the template names. -/
def chooseType (outside : Json) (members : Members) : Except ConfigError (Option Reference) :=
  if outside.isTruthy then .ok (Reference.ofJson? outside)
  else do return (← textMember members "resource" "type").map .text

/-- Reads the members of a resource template; references are not checked. -/
def ofMembers (members : Members) (outside : Json) : Except ConfigError ResourceTemplate := do
  let subject ← readSubject (← objectMember members "subject")
  let nodes ← (← objectMember members "nodes").mapM fun e => readNode e.1 e.2
  let scopePath ← textMember members "resource" "scope"
  let typeRef ← chooseType outside members
  let properties ← propertiesMember members "resource"
  return { subject, scopePath, typeRef, properties, nodes }

/-- Reads the members of a resource template and checks its references. -/
def read (members : Members) (outside : Json) : Traced ResourceTemplate := do
  let t ← Traced.lift ((ofMembers members outside).mapError .config)
  t.checkReferences
  return t

/-- Reads a resource template from any JSON value; only an object has members to read. -/
def readValue (raw outside : Json) : Traced ResourceTemplate :=
  match raw with
  | .object members => read members outside
  | _ => throw (.shape .noMembers)

end Template

end GraphLift
