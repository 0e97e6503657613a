import GraphLift.Export.Config
import GraphLift.Mapping.Mapper

/-! # Building the graph of an export

    The graph of an export holds what every element's template says of the document, and for every relation
    the links from each subject of one element to each subject of the other.
-/

namespace GraphLift

namespace Export

/-- A graph under construction: what it holds, the subjects of the elements so far, and the number of the next
    blank node. -/
structure Progress where
  graph : Graph := {}
  subjects : List (String × List Node) := []
  next : Nat := 0

/-- The subjects of an element. -/
def Progress.subjectsOf (p : Progress) (id : String) : List Node :=
  (Json.lookup id p.subjects).getD []

/-- Maps the document by the template of one element. -/
def mapElement [Library] (table : PrefixTable) (document : Json) (p : Progress)
    (element : Element × ResourceTemplate) : Traced Progress := do
  let m ← Traced.lift (Mapper.ofTemplate element.2 table)
  let r ← m.mapInto p.graph p.next document
  Traced.report (.elementMapped element.1.id r.subjects.length)
  return ⟨r.graph, Json.put element.1.id r.subjects p.subjects, r.next⟩

/-- The links of every node of one list with every node of another. -/
def links (predicate : String) (subjects objects : List Node) : List Triple :=
  subjects.flatMap fun s => objects.map fun o => ⟨s, predicate, .node o⟩

/-- Links the subjects of the two elements of a relation, if its predicate expands. -/
def relate (table : PrefixTable) (p : Progress) (r : Relation) : Traced Progress :=
  match r.predicate with
  | .text reference => do
    match ← Traced.lift (table.expand reference) with
    | none =>
      Traced.report (.relationSkipped r.subject r.object reference)
      return p
    | some predicate =>
      return { p with graph := p.graph.insertAll (links predicate (p.subjectsOf r.subject) (p.subjectsOf r.object)) }
  | _ => throw (.shape .notTrimmable)

variable [Library]

/-- The graph of elements whose templates `load` gives, with the namespaces of the prefix table. Prefixes are
    bound before any template is loaded, and all templates are loaded before the document is looked at. What was gathered
    is put into a graph of its own at last, for which the prefixes are bound again. -/
def graph (root : RootConfig) (load : Traced (List (Element × ResourceTemplate))) (document : Json) :
    Traced (Graph × Namespaces) := do
  let table := PrefixTable.ofTexts root.prefixes
  let _ ← Traced.lift (table.bindTo .standard)
  let mapped ← (← load).foldlM (mapElement table document) {}
  let linked ← root.relations.foldlM (relate table) mapped
  let ns ← Traced.lift (table.bindTo .standard)
  return (Graph.insertAll {} linked.graph.triples, ns)

/-- The graph of an export. A root configuration with its trace on has everything reported that happens here. -/
def build (root : RootConfig) (load : Traced (List (Element × ResourceTemplate))) (document : Json) :
    Traced (Graph × Namespaces) :=
  if root.trace then (graph root load document).marked else graph root load document

end Export

end GraphLift
