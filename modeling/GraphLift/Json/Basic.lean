import GraphLift.Number.Double

/-! # JSON values

    A document or a configuration is a JSON tree.

    * **Order**: an object keeps its members in the order in which they were written.
    * **Numbers**: a numeral without point and exponent is a whole number of any size; any other numeral is a
      double. So are the words for the infinite values and for what is no number.
    * **Duplicates**: `put` replaces the value of a name that is there already and leaves it in its place.
-/

namespace GraphLift

/-- A JSON value. -/
inductive Json where
  | null
  | bool (b : Bool)
  | int (n : Int)
  | real (x : Double)
  | text (s : String)
  | array (items : List Json)
  | object (members : List (String × Json))
  deriving Inhabited

namespace Json

/-! ## Tables by name -/

/-- The value under a name in an ordered table. -/
def lookup {α : Type} (name : String) (table : List (String × α)) : Option α :=
  (table.find? fun p => p.1 == name).map (·.2)

/-- Writes a value under a name: in place if the name is there, at the end otherwise. -/
def put {α : Type} (name : String) (value : α) : List (String × α) → List (String × α)
  | [] => [(name, value)]
  | (n, v) :: rest => if n == name then (n, value) :: rest else (n, v) :: put name value rest

/-- The table with each name's last value at its first place. -/
def collect {α : Type} (pairs : List (String × α)) : List (String × α) :=
  pairs.foldl (fun table p => put p.1 p.2 table) []

/-- The member of an object's table; an absent one reads as null. -/
def field (members : List (String × Json)) (name : String) : Json :=
  (lookup name members).getD .null

/-! ## Classification -/

/-- The value is null. -/
def isNull : Json → Bool
  | .null => true
  | _ => false

/-- The value counts as something: neither null, false, zero nor empty. -/
def isTruthy : Json → Bool
  | .null => false
  | .bool b => b
  | .int n => n != 0
  | .real (.number (.finite _ m _)) => m != 0
  | .real (.number (.infinite _)) => true
  | .real .undefined => true
  | .text s => s != ""
  | .array items => !items.isEmpty
  | .object members => !members.isEmpty

/-- The name of a value's kind, as messages give it. -/
def kindName : Json → String
  | .null => "NoneType"
  | .bool _ => "bool"
  | .int _ => "int"
  | .real _ => "float"
  | .text _ => "str"
  | .array _ => "list"
  | .object _ => "dict"

end Json

end GraphLift
