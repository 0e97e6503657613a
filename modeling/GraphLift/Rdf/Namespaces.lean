import GraphLift.PrefixTable

/-! # Namespaces of a graph

    A graph knows prefixes for namespaces. Prefixes and namespaces correspond one to one: binding a pair
    removes the pairs that mention its prefix or its namespace.
-/

namespace GraphLift

/-- Pairs of a prefix and a namespace. -/
structure Namespaces where
  pairs : List (String × String)
  deriving Repr

namespace Namespaces

/-- The pairs that every graph starts with. -/
def standard : Namespaces := ⟨[
  ("brick", "https://brickschema.org/schema/Brick#"),
  ("csvw", "http://www.w3.org/ns/csvw#"),
  ("dc", "http://purl.org/dc/elements/1.1/"),
  ("dcat", "http://www.w3.org/ns/dcat#"),
  ("dcmitype", "http://purl.org/dc/dcmitype/"),
  ("dcterms", "http://purl.org/dc/terms/"),
  ("dcam", "http://purl.org/dc/dcam/"),
  ("doap", "http://usefulinc.com/ns/doap#"),
  ("foaf", "http://xmlns.com/foaf/0.1/"),
  ("geo", "http://www.opengis.net/ont/geosparql#"),
  ("odrl", "http://www.w3.org/ns/odrl/2/"),
  ("org", "http://www.w3.org/ns/org#"),
  ("prof", "http://www.w3.org/ns/dx/prof/"),
  ("prov", "http://www.w3.org/ns/prov#"),
  ("qb", "http://purl.org/linked-data/cube#"),
  ("schema", "https://schema.org/"),
  ("sh", "http://www.w3.org/ns/shacl#"),
  ("skos", "http://www.w3.org/2004/02/skos/core#"),
  ("sosa", "http://www.w3.org/ns/sosa/"),
  ("ssn", "http://www.w3.org/ns/ssn/"),
  ("time", "http://www.w3.org/2006/time#"),
  ("vann", "http://purl.org/vocab/vann/"),
  ("void", "http://rdfs.org/ns/void#"),
  ("wgs", "https://www.w3.org/2003/01/geo/wgs84_pos#"),
  ("owl", "http://www.w3.org/2002/07/owl#"),
  ("rdf", "http://www.w3.org/1999/02/22-rdf-syntax-ns#"),
  ("rdfs", "http://www.w3.org/2000/01/rdf-schema#"),
  ("xsd", "http://www.w3.org/2001/XMLSchema#"),
  ("xml", "http://www.w3.org/XML/1998/namespace")]⟩

/-- Binds a prefix to a namespace. -/
def bind (ns : Namespaces) (name iri : String) : Namespaces :=
  if ns.pairs.contains (name, iri) then ns
  else ⟨ns.pairs.filter (fun p => p.1 != name && p.2 != iri) ++ [(name, iri)]⟩

/-- The namespace of a prefix. -/
def namespaceOf? (ns : Namespaces) (name : String) : Option String :=
  (ns.pairs.find? (·.1 == name)).map (·.2)

/-- The prefix of a namespace. -/
def nameOf? (ns : Namespaces) (iri : String) : Option String :=
  (ns.pairs.find? (·.2 == iri)).map (·.1)

end Namespaces

/-- The prefix that an entry of a table is bound under. -/
def PrefixName.bound : PrefixName → Except Failure String
  | .text s => if s.toList.contains ' ' then .error (.shape .spacedPrefix) else .ok s
  | .absent => .ok ""
  | .other => .error (.shape .prefixKind)

/-- Binds all entries of a table in order. -/
def PrefixTable.bindTo (table : PrefixTable) (ns : Namespaces) : Except Failure Namespaces :=
  table.entries.foldlM (fun ns e => do return ns.bind (← e.1.bound) e.2.label) ns

end GraphLift
