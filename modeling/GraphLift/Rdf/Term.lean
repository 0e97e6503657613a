/-! # Terms and triples

    A graph is a set of triples. A subject is a node, that is an IRI or a blank node; an object is a node or a
    literal.

    * **Blank nodes** are numbers; a graph is meant up to renumbering them.
    * **Literals** are plain, or have a language, or have a datatype, never both.
    * **Languages** do not depend on letter case: two literals whose language tags differ in case only are the
      same, and a graph keeps the one it met first.
-/

namespace GraphLift

/-- An IRI or a blank node. -/
inductive Node where
  | iri (s : String)
  | blank (n : Nat)
  deriving DecidableEq, Repr

/-- What a literal carries besides its text. -/
inductive Annotation where
  | plain
  | language (tag : String)
  | datatype (iri : String)
  deriving DecidableEq, Repr

/-- A text as a value. -/
structure Literal where
  text : String
  annotation : Annotation
  deriving DecidableEq, Repr

/-- A literal without language and datatype. -/
def Literal.plain (text : String) : Literal := ⟨text, .plain⟩

/-- What can be the object of a triple. -/
inductive Term where
  | node (n : Node)
  | literal (l : Literal)
  deriving DecidableEq, Repr

/-- A statement about its subject. -/
structure Triple where
  subject : Node
  predicate : String
  object : Term
  deriving DecidableEq, Repr

/-! ## Sameness -/

/-- The annotation with its language tag in lower case. -/
def Annotation.folded : Annotation → Annotation
  | language tag => language (String.ofList (tag.toList.map Char.toLower))
  | a => a

/-- The term with its language tag in lower case. -/
def Term.folded : Term → Term
  | literal l => literal ⟨l.text, l.annotation.folded⟩
  | t => t

/-- The triple with its language tag in lower case. -/
def Triple.folded (t : Triple) : Triple :=
  ⟨t.subject, t.predicate, t.object.folded⟩

/-- Two triples say the same. -/
def Triple.same (t u : Triple) : Bool :=
  t.folded == u.folded

/-! ## Graphs -/

/-- Triples in the order in which they came, none said twice. -/
structure Graph where
  triples : List Triple := []
  deriving Repr

namespace Graph

/-- A triple is said in a graph. -/
def holds (g : Graph) (t : Triple) : Bool :=
  g.triples.any (t.same ·)

/-- The graph with one more triple. -/
def insert (g : Graph) (t : Triple) : Graph :=
  if g.holds t then g else ⟨g.triples ++ [t]⟩

/-- The graph with more triples. -/
def insertAll (g : Graph) (ts : List Triple) : Graph :=
  ts.foldl insert g

/-- The number of triples. -/
def size (g : Graph) : Nat :=
  g.triples.length

end Graph

/-! ## Well-known names -/

/-- The predicate that gives a type. -/
def rdfType : String := "http://www.w3.org/1999/02/22-rdf-syntax-ns#type"

/-- The predicate that gives the item of a cell of a collection. -/
def rdfFirst : String := "http://www.w3.org/1999/02/22-rdf-syntax-ns#first"

/-- The predicate that gives the next cell of a collection. -/
def rdfRest : String := "http://www.w3.org/1999/02/22-rdf-syntax-ns#rest"

/-- The empty collection. -/
def rdfNil : String := "http://www.w3.org/1999/02/22-rdf-syntax-ns#nil"

/-- The namespace of the schema datatypes. -/
def xsdNamespace : String := "http://www.w3.org/2001/XMLSchema#"

end GraphLift
