import ContentTree.Text.Segments
import ContentTree.Text.Utf8
/-!
Paths of files. A tidy path has no empty and no single-dot segments; double dots stay, because what
they lead to depends on the links before them. The empty path is the current folder, a single dot.
-/

set_option autoImplicit false
set_option relaxedAutoImplicit false

namespace ContentTree.Storage.FilePath

open ContentTree.Text

/-- The segments of a path that are neither empty nor a single dot. -/
def parts (path : String) : List String :=
  (segments path).filter fun segment => segment != "" && segment != "."

/-- The slashes in front of the parts: none, one, or two when the path begins with exactly two. -/
def anchor (path : String) : String :=
  match path.toList with
  | '/' :: '/' :: '/' :: _ => "/"
  | '/' :: '/' :: _ => "//"
  | '/' :: _ => "/"
  | _ => ""

/-- The tidy form of a path. -/
def tidy (path : String) : String :=
  let text := anchor path ++ joinSegments (parts path)
  if text = "" then "." else text

/-- The tidy path of something below a folder. -/
def below (folder relative : String) : String :=
  if relative = "" then tidy folder
  else if finishesWith "/" folder then tidy (folder ++ relative)
  else tidy (folder ++ "/" ++ relative)

/-- The most bytes a name may have. -/
def maxNameBytes : Nat := 255

/-- The most bytes a path may have. -/
def maxPathBytes : Nat := 4095

/-- Whether a name is short enough for the file system. -/
def isShortName (name : String) : Bool := (Utf8.encode name).length ≤ maxNameBytes

/-- Whether a path is short enough for the file system. -/
def isShortPath (path : String) : Bool := (Utf8.encode path).length ≤ maxPathBytes

end ContentTree.Storage.FilePath
