import GraphLift.Export.Config
import GraphLift.Json.Display
import GraphLift.Report.Traced
import GraphLift.Template.Flag

/-! # Reading root configurations

    A root configuration is written as a JSON object:

        {"trace": flag, "prefixes": {prefix: namespace}, "elements": [{"id", "type", "file"}],
         "relations": [{"subject", "predicate", "object"}], "formats": {name: flag}}

    * **Elements** need an identifier and a file; identifiers are compared as labels and must differ.
    * **Relations** need all three members, and their ends must be identifiers of elements.
    * **Formats** are named in any letter case; a name that is none of the three is reported.
-/

namespace GraphLift

namespace RootConfig

/-- The values that a list, a text or an object holds; what counts as nothing holds none. -/
def walkThrough (v : Json) : Except Failure (List Json) :=
  if !v.isTruthy then .ok []
  else match v with
    | .array items => .ok items
    | .text s => .ok (s.toList.map fun c => .text (String.singleton c))
    | .object members => .ok (members.map fun m => .text m.1)
    | _ => .error (.shape .notIterable)

/-- The members of an object whose named members all count as something. -/
def completeMembers? (names : List String) : Json → Option (List (String × Json))
  | .object members => if names.all fun n => (Json.field members n).isTruthy then some members else none
  | _ => none

/-- Reads the element at a place of the list. -/
def readElement (index : Nat) (v : Json) : Except Failure Element :=
  match completeMembers? ["id", "file"] v with
  | none => .error (.config (.elementIncomplete index))
  | some members =>
    .ok ⟨(Json.field members "id").label, Json.field members "type", (Json.field members "file").label⟩

/-- The element that an end of a relation names. -/
def readEnd (ids : List String) (index : Nat) (side : String) : Json → Except Failure String
  | .array _ | .object _ => .error (.shape .notComparable)
  | .text s => if ids.contains s then .ok s else .error (.config (.relationUnknown index side (.text s)))
  | v => .error (.config (.relationUnknown index side v))

/-- Reads the relation at a place of the list. -/
def readRelation (ids : List String) (index : Nat) (v : Json) : Except Failure Relation :=
  match completeMembers? ["subject", "predicate", "object"] v with
  | none => .error (.config (.relationIncomplete index))
  | some members => do
    let subject ← readEnd ids index "subject" (Json.field members "subject")
    let object ← readEnd ids index "object" (Json.field members "object")
    return ⟨subject, Json.field members "predicate", object⟩

/-- Reads the values of a list one after the other, each with its place. -/
def readEach {α : Type} (read : Nat → Json → Except Failure α) (index : Nat) : List Json → Except Failure (List α)
  | [] => .ok []
  | v :: rest => do
    let head ← read index v
    let tail ← readEach read (index + 1) rest
    return head :: tail

/-- Sets the flag that an entry names, or reports that it names none. -/
def readFlag (flags : FormatFlags) (entry : String × Json) : Traced FormatFlags :=
  match Format.named? (Text.lowerCase entry.1) with
  | some format => pure (flags.set format (entry.2.toFlag true))
  | none => do
    Traced.report (.formatUnknown entry.1)
    return flags

/-- The members of an object under a name; what counts as nothing has none. -/
def tableMember (members : List (String × Json)) (name : String) : Except Failure (List (String × Json)) :=
  let raw := Json.field members name
  if !raw.isTruthy then .ok []
  else match raw with
    | .object entries => .ok entries
    | _ => .error (.config (.notObject name))

/-- Reads the members of a root configuration. -/
def read (members : List (String × Json)) : Traced RootConfig := do
  let prefixes ← tableMember members "prefixes"
  let elements ← readEach readElement 0 (← walkThrough (Json.field members "elements"))
  let ids := elements.map (·.id)
  if ¬ ids.Nodup then throw (.config .elementsClash)
  let relations ← readEach (readRelation ids) 0 (← walkThrough (Json.field members "relations"))
  let formats ← (← tableMember members "formats").foldlM readFlag {}
  return {
    trace := (Json.field members "trace").toFlag false
    prefixes := prefixes.map fun p => (p.1, p.2.label)
    elements, relations, formats }

/-- Reads a root configuration from any JSON value; only an object has members to read. -/
def readValue : Json → Traced RootConfig
  | .object members => read members
  | _ => throw (.shape .noMembers)

end RootConfig

end GraphLift
