import ContentTree.Json.Value
/-!
Data as a running program holds them. They are like JSON values, except that a part may be of a kind
for which JSON has no form, such as a decimal number or a date.
-/

set_option autoImplicit false
set_option relaxedAutoImplicit false

namespace ContentTree.Json

open ContentTree.Number

/-- Data of which some may have no JSON form. -/
inductive Datum where
  | null
  | bool (value : Bool)
  | int (value : Int)
  | float (value : Binary64)
  | str (text : String)
  | arr (items : List Datum)
  | obj (members : List (String × Datum))
  | foreign (kind : String)
  deriving Repr, Inhabited

mutual

/-- A JSON value as data. -/
def Datum.ofValue : Value → Datum
  | .null => .null
  | .bool b => .bool b
  | .int i => .int i
  | .float x => .float x
  | .str s => .str s
  | .arr items => .arr (dataOfItems items)
  | .obj members => .obj (dataOfMembers members)

/-- The items of an array as data. -/
def dataOfItems : List Value → List Datum
  | [] => []
  | v :: rest => Datum.ofValue v :: dataOfItems rest

/-- The members of an object as data. -/
def dataOfMembers : List (String × Value) → List (String × Datum)
  | [] => []
  | (name, v) :: rest => (name, Datum.ofValue v) :: dataOfMembers rest

end

mutual

/-- How many containers stand in each other. -/
def Datum.depth : Datum → Nat
  | .arr items => depthOfItems items + 1
  | .obj members => depthOfMembers members + 1
  | _ => 0

/-- The greatest depth of the items of an array. -/
def depthOfItems : List Datum → Nat
  | [] => 0
  | d :: rest => max d.depth (depthOfItems rest)

/-- The greatest depth of the members of an object. -/
def depthOfMembers : List (String × Datum) → Nat
  | [] => 0
  | (_, d) :: rest => max d.depth (depthOfMembers rest)

end

end ContentTree.Json
