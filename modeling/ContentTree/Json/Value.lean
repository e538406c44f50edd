import ContentTree.Number.Binary64
/-!
JSON values. Integers are exact, other numbers are binary64, and the members of an object keep
their order.
-/

set_option autoImplicit false
set_option relaxedAutoImplicit false

namespace ContentTree.Json

open ContentTree.Number

/-- A JSON value. -/
inductive Value where
  | null
  | bool (value : Bool)
  | int (value : Int)
  | float (value : Binary64)
  | str (text : String)
  | arr (items : List Value)
  | obj (members : List (String × Value))
  deriving Repr, Inhabited

namespace Value

/-- The member of an object with the given name. -/
def member? (name : String) : Value → Option Value
  | .obj members => members.lookup name
  | _ => none

end Value

end ContentTree.Json
