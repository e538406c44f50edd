import ContentTree.Text.Segments
/-!
Repository names and the names they have on disk. A namespace `jcr` in front of a name is
written `_jcr_`, characters that some file systems refuse are written as a percent sign with two
hexadecimal digits, and a name that would read as one with a namespace is marked by doubling
its first underscore. The two directions work on single path segments, and on whole paths segment
by segment.
-/

set_option autoImplicit false
set_option relaxedAutoImplicit false

namespace ContentTree.Name

open ContentTree.Text

/-- The two digits that stand for a character not written as itself. -/
def escapeCode? : Char → Option (Char × Char)
  | '%' => some ('2', '5')
  | '\\' => some ('5', 'c')
  | '/' => some ('2', 'f')
  | ':' => some ('3', 'a')
  | '*' => some ('2', 'a')
  | '?' => some ('3', 'f')
  | '"' => some ('2', '2')
  | '<' => some ('3', 'c')
  | '>' => some ('3', 'e')
  | '|' => some ('7', 'c')
  | _ => none

/-- One character of a name on disk. -/
def escapeChar (c : Char) : List Char :=
  match escapeCode? c with
  | some (high, low) => ['%', high, low]
  | none => [c]

/-- Replaces the characters not written as themselves. -/
def escape (name : List Char) : List Char := name.flatMap escapeChar

/-- The value of a hexadecimal digit of either case. -/
def hexDigit? (c : Char) : Option Nat :=
  if '0' ≤ c ∧ c ≤ '9' then some (c.toNat - 48)
  else if 'a' ≤ c ∧ c ≤ 'f' then some (c.toNat - 87)
  else if 'A' ≤ c ∧ c ≤ 'F' then some (c.toNat - 55)
  else none

/-- The character written by two hexadecimal digits. -/
def hexPair? (high low : Char) : Option Char := do
  return Char.ofNat ((← hexDigit? high) * 16 + (← hexDigit? low))

/-- Undoes `escape`. A percent sign without two hexadecimal digits stands for itself. -/
def unescape : List Char → List Char
  | [] => []
  | '%' :: high :: low :: rest =>
    match hexPair? high low with
    | some c => c :: unescape rest
    | none => '%' :: unescape (high :: low :: rest)
  | c :: rest => c :: unescape rest

/-- Splits a text at the first occurrence of a character. -/
def splitFirst? (mark : Char) : List Char → Option (List Char × List Char)
  | [] => none
  | c :: rest =>
    if c = mark then some ([], rest)
    else (splitFirst? mark rest).map fun (front, back) => (c :: front, back)

/-- Whether the escaped form of a name would be read as one with a namespace, or as one marked
against that. -/
def looksQualified : List Char → Bool
  | '_' :: rest => rest.contains '_'
  | _ => false

/-- The name on disk of a name without a namespace. -/
def encodePlain (name : List Char) : List Char :=
  let escaped := escape name
  if looksQualified escaped then '_' :: escaped else escaped

/-- The name on disk of a repository name. Only a namespace free of underscores and percent signs
is written between underscores. -/
def encode (name : List Char) : List Char :=
  match splitFirst? ':' name with
  | some (space@(_ :: _), base) =>
    if space.contains '_' || space.contains '%' then encodePlain name
    else '_' :: escape space ++ '_' :: escape base
  | _ => encodePlain name

/-- The repository name of a name on disk. -/
def decode : List Char → List Char
  | '_' :: rest =>
    match rest with
    | '_' :: _ => unescape rest
    | _ =>
      match splitFirst? '_' rest with
      | some (space, base) => unescape space ++ ':' :: unescape base
      | none => unescape ('_' :: rest)
  | name => unescape name

/-- The name on disk of a repository name. -/
def toPlatform (name : String) : String := String.ofList (encode name.toList)

/-- The repository name of a name on disk. -/
def ofPlatform (name : String) : String := String.ofList (decode name.toList)

/-- The path on disk of a repository path. -/
def toPlatformPath (path : String) : String :=
  joinSegments ((segments path).map toPlatform)

/-- The repository path of a path on disk. -/
def ofPlatformPath (path : String) : String :=
  joinSegments ((segments path).map ofPlatform)

end ContentTree.Name
