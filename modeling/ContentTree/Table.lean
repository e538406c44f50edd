/-!
Ordered tables: lists of names with values in which each name stands once. Putting a name again
replaces its value and leaves its position.
-/

set_option autoImplicit false
set_option relaxedAutoImplicit false

namespace ContentTree.Table

variable {α : Type}

/-- Puts an entry: an entry of that name is replaced where it stands, a new one goes to the end. -/
def put (name : String) (value : α) : List (String × α) → List (String × α)
  | [] => [(name, value)]
  | (key, old) :: rest =>
    if key = name then (key, value) :: rest else (key, old) :: put name value rest

/-- The table that puts entries one after the other. -/
def ofEntries (entries : List (String × α)) : List (String × α) :=
  entries.foldl (fun table entry => put entry.1 entry.2 table) []

end ContentTree.Table
