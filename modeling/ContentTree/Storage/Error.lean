import ContentTree.Text.Quoted
/-!
Why a file system refuses something, and how it says so.
-/

set_option autoImplicit false
set_option relaxedAutoImplicit false

namespace ContentTree.Storage

open ContentTree.Text

/-- Why a path leads nowhere. -/
inductive PathFault where
  | missing
  | notFolder
  | nameTooLong
  | tooManyLinks
  | nulCharacter
  deriving DecidableEq, Repr

/-- Why a change or a direct access cannot happen. -/
inductive Cause where
  | missing
  | taken
  | notFolder
  | isFolder
  | invalid
  | notEmpty
  | nameTooLong
  | tooManyLinks
  | nulCharacter
  deriving DecidableEq, Repr

/-- A refused change or access, with the paths that it concerns. -/
structure StorageError where
  cause : Cause
  paths : List String
  deriving DecidableEq, Repr

/-- The cause behind a path that leads nowhere. -/
def PathFault.cause : PathFault → Cause
  | .missing => .missing
  | .notFolder => .notFolder
  | .nameTooLong => .nameTooLong
  | .tooManyLinks => .tooManyLinks
  | .nulCharacter => .nulCharacter

/-- The number and the wording of a cause. -/
def Cause.text : Cause → String
  | .missing => "[Errno 2] No such file or directory"
  | .taken => "[Errno 17] File exists"
  | .notFolder => "[Errno 20] Not a directory"
  | .isFolder => "[Errno 21] Is a directory"
  | .invalid => "[Errno 22] Invalid argument"
  | .nameTooLong => "[Errno 36] File name too long"
  | .notEmpty => "[Errno 39] Directory not empty"
  | .tooManyLinks => "[Errno 40] Too many levels of symbolic links"
  | .nulCharacter => "embedded null byte"

/-- The wording of an error: the cause and, unless a path cannot be one, the quoted paths. -/
def StorageError.message (error : StorageError) : String :=
  match error.cause with
  | .nulCharacter => error.cause.text
  | cause => cause.text ++ ": " ++ " -> ".intercalate (error.paths.map quoted)

end ContentTree.Storage
