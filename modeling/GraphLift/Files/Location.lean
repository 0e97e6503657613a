/-! # Locations of files

    A location is relative, or starts from the root. Its parts are the names between the slashes; empty ones and
    single points are dropped, double points are kept. Two slashes in front are kept apart from one. A tilde in
    front of a relative location stands for somebody's home directory.
-/

namespace GraphLift

/-- Where a file is. -/
structure Location where
  /-- What stands in front of the parts: nothing, one slash or two. -/
  root : String
  parts : List String
  deriving DecidableEq, Repr

namespace Location

/-- The names between slashes, the last one being read in reverse. -/
def splitSlashes (current : List Char) : List Char → List (List Char)
  | [] => [current.reverse]
  | '/' :: rest => current.reverse :: splitSlashes [] rest
  | c :: rest => splitSlashes (c :: current) rest

/-- What stands in front of the parts of a text. -/
def rootOf (s : List Char) : String :=
  match (s.takeWhile (· == '/')).length with
  | 0 => ""
  | 2 => "//"
  | _ => "/"

/-- The location that a text writes. -/
def parse (s : String) : Location :=
  ⟨rootOf s.toList, ((splitSlashes [] s.toList).map String.ofList).filter fun p => p != "" && p != "."⟩

/-- The text of a location. -/
def text (l : Location) : String :=
  if l.root = "" && l.parts.isEmpty then "." else l.root ++ "/".intercalate l.parts

/-- The location starts from the root. -/
def isAbsolute (l : Location) : Bool :=
  l.root != ""

/-- The location one part up. -/
def parent (l : Location) : Location :=
  ⟨l.root, l.parts.dropLast⟩

/-- A location seen from another one. -/
def join (base l : Location) : Location :=
  if l.isAbsolute then l else ⟨base.root, base.parts ++ l.parts⟩

/-- The parts without double points, each of which goes one part up. -/
def collapse (done : List String) : List String → List String
  | [] => done
  | p :: rest => if p = ".." then collapse done.dropLast rest else collapse (done ++ [p]) rest

/-- The name behind a tilde at the front of a relative location, and the parts that follow. A tilde alone has
    the empty name. -/
def tilde? (l : Location) : Option (String × List String) :=
  match l.parts with
  | p :: rest =>
    match p.toList with
    | '~' :: name => if l.isAbsolute then none else some (String.ofList name, rest)
    | _ => none
  | [] => none

/-- The location holds the null character, which no file has in its name. -/
def hasNull (l : Location) : Bool :=
  l.parts.any fun p => p.toList.contains '\x00'

end Location

end GraphLift
