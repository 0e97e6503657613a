import GraphLift.Report.Traced
import GraphLift.Template.Basic

/-! # References between node templates

    The properties of node templates refer to node templates. Following such references must not lead in a
    circle, as the instances of a node template hold those of the templates it refers to.

    * **`findCycle`** walks along the references, in order, and gives the first circle it meets.
    * **`dangling`** lists the references to node templates that do not exist. They do no harm but are reported.
-/

namespace GraphLift

/-- The node template that a property refers to. -/
def Property.target? (p : Property) : Option String :=
  if p.kind = .nodeRef then p.node else none

namespace ResourceTemplate

/-- The node templates of `t` that properties refer to, in order. -/
def targets (t : ResourceTemplate) (properties : List (String × Property)) : List String :=
  properties.filterMap fun p => p.2.target?.filter fun id => (t.node? id).isSome

/-- The node templates that a node template refers to. -/
def targetsOf (t : ResourceTemplate) (id : String) : List String :=
  match t.node? id with
  | some n => t.targets n.properties
  | none => []

/-- Walks along all references from a node template. `chain` is the way to it, and from those in `done` no
    circle can be reached. The result is the circle, or `done` with all that was left behind. A way holds no
    node template twice, so `room` for as many as there are is enough. -/
def walk (t : ResourceTemplate) :
    (room : Nat) → (chain done : List String) → (id : String) → Except (List String) (List String)
  | room, chain, done, id =>
    if chain.contains id then .error (chain.dropWhile (· != id) ++ [id])
    else if done.contains id then .ok done
    else match room with
      | 0 => .ok done
      | room + 1 => do
        let left ← (t.targetsOf id).foldlM (fun d next => walk t room (chain ++ [id]) d next) done
        return left ++ [id]

/-- The first circle of references, written from a node template back to itself. -/
def findCycle (t : ResourceTemplate) : Option (List String) :=
  match t.nodes.foldlM (fun done n => t.walk t.nodes.length [] done n.id) [] with
  | .error circle => some circle
  | .ok _ => none

/-- The references from a list of properties to node templates that do not exist. -/
def danglingIn (t : ResourceTemplate) (place : String) (properties : List (String × Property)) : List Event :=
  properties.filterMap fun p =>
    if p.2.kind = .nodeRef && ((p.2.node.bind t.node?).isNone) then
      some (.danglingNode place p.1 p.2.node)
    else none

/-- The references to node templates that do not exist: first those of the resource. -/
def dangling (t : ResourceTemplate) : List Event :=
  t.danglingIn "resource" t.properties ++ t.nodes.flatMap fun n => t.danglingIn s!"nodes.{n.id}" n.properties

/-- Refuses a circle of references and reports references to nothing. -/
def checkReferences (t : ResourceTemplate) : Traced Unit :=
  match t.findCycle with
  | some circle => throw (.config (.cyclic circle))
  | none => t.dangling.forM Traced.report

end ResourceTemplate

end GraphLift
