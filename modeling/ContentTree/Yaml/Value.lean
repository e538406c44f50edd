import ContentTree.Calendar.DateTime
import ContentTree.Json.Value
/-!
YAML values: those of JSON, and timestamps.
-/

set_option autoImplicit false
set_option relaxedAutoImplicit false

namespace ContentTree.Yaml

open ContentTree.Number ContentTree.Calendar

/-- A YAML value. -/
inductive Value where
  | null
  | bool (value : Bool)
  | int (value : Int)
  | float (value : Binary64)
  | timestamp (time : DateTime)
  | str (text : String)
  | seq (items : List Value)
  | map (members : List (String × Value))
  deriving Inhabited

mutual

/-- The YAML value of a JSON value. -/
def Value.ofJson : Json.Value → Value
  | .null => .null
  | .bool b => .bool b
  | .int i => .int i
  | .float x => .float x
  | .str s => .str s
  | .arr items => .seq (itemsOfJson items)
  | .obj members => .map (membersOfJson members)

/-- The YAML values of the items of an array. -/
def itemsOfJson : List Json.Value → List Value
  | [] => []
  | v :: rest => Value.ofJson v :: itemsOfJson rest

/-- The YAML values of the members of an object. -/
def membersOfJson : List (String × Json.Value) → List (String × Value)
  | [] => []
  | (name, v) :: rest => (name, Value.ofJson v) :: membersOfJson rest

end

end ContentTree.Yaml
