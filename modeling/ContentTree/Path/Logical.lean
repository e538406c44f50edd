import ContentTree.Text.Segments
/-!
Logical paths of the resource tree. A normalized path is a slash followed by names with a slash
between each two. Normalizing reads the segments from the left and keeps a stack of names: empty
segments and single dots are skipped, a double dot removes the last name.
-/

set_option autoImplicit false
set_option relaxedAutoImplicit false

namespace ContentTree.Path

open ContentTree.Text

/-- Why a path is not acceptable. -/
inductive PathError where
  | notAbsolute (path : String)
  | escapesRoot (path : String)
  deriving DecidableEq, Repr

/-- The wording of an error. -/
def PathError.message : PathError → String
  | .notAbsolute path => "Path must be absolute: '" ++ path ++ "'"
  | .escapesRoot path => "Path escapes the root: '" ++ path ++ "'"

/-- Reads segments against a stack of names, the last name first. -/
def reduce? : List String → List String → Option (List String)
  | stack, [] => some stack
  | stack, segment :: rest =>
    if segment = "" ∨ segment = "." then reduce? stack rest
    else if segment = ".." then
      match stack with
      | [] => none
      | _ :: below => reduce? below rest
    else reduce? (segment :: stack) rest

/-- The path with the given names. -/
def ofNames (names : List String) : String := "/" ++ joinSegments names

/-- The normalized form of an absolute path. -/
def normalize (path : String) : Except PathError String :=
  if beginsWith "/" path then
    match reduce? [] (segments path) with
    | some stack => .ok (ofNames stack.reverse)
    | none => .error (.escapesRoot path)
  else .error (.notAbsolute path)

/-- Whether no segment of a path is a single or double dot. -/
def isContained (path : String) : Bool :=
  (segments path).all fun segment => segment != "." && segment != ".."

/-- The path one level up. The root and the empty path have none. -/
def parent? (path : String) : Option String :=
  if path = "/" ∨ path = "" then none
  else
    let stem := beforeLastSlash path
    some (if stem = "" then "/" else stem)

/-- The path of a child. -/
def join (parent name : String) : String :=
  if parent = "/" then "/" ++ name else parent ++ "/" ++ name

end ContentTree.Path
