import ContentTree.Text.Utf8
import ContentTree.Xml.ByteEncoding
import ContentTree.Xml.Reader
/-!
From bytes to documents. A byte order mark, or the zero bytes around the first characters, tell
the encodings with two bytes for a character; otherwise the declaration at the start names the
encoding, and UTF-8 is the default.
-/

set_option autoImplicit false
set_option relaxedAutoImplicit false

namespace ContentTree.Xml

open ContentTree.Text

/-- Why bytes are not read as a document. -/
inductive ReadError where
  /-- Some bytes are no characters of the document's encoding. -/
  | undecodable
  /-- The text is not a well-formed document, or its encoding is not known. -/
  | malformed
  deriving DecidableEq, Repr

/-- The characters of UTF-16 units, given as numbers. -/
def charsOfUnits : List Nat → Option (List Char)
  | [] => some []
  | high :: rest =>
    if 0xD800 ≤ high ∧ high < 0xDC00 then
      match rest with
      | low :: more =>
        if 0xDC00 ≤ low ∧ low < 0xE000 then
          (charsOfUnits more).map
            (Char.ofNat (0x10000 + (high - 0xD800) * 0x400 + (low - 0xDC00)) :: ·)
        else none
      | [] => none
    else if 0xDC00 ≤ high ∧ high < 0xE000 then none
    else (charsOfUnits rest).map (Char.ofNat high :: ·)

/-- The units written by pairs of bytes; `little` tells that the lower byte comes first. -/
def unitsOfBytes (little : Bool) : List UInt8 → Option (List Nat)
  | [] => some []
  | [_] => none
  | a :: b :: rest =>
    let unit := if little then a.toNat + 256 * b.toNat else 256 * a.toNat + b.toNat
    (unitsOfBytes little rest).map (unit :: ·)

/-- The characters of UTF-16 bytes. -/
def decodeUtf16 (little : Bool) (bytes : List UInt8) : Except ReadError (List Char) :=
  match (unitsOfBytes little bytes).bind charsOfUnits with
  | some chars => .ok chars
  | none => .error .undecodable

/-- The characters of UTF-8 bytes. -/
def decodeUtf8 (bytes : List UInt8) : Except ReadError (List Char) :=
  match Utf8.charsFrom 0 bytes with
  | .ok chars => .ok chars
  | .error _ => .error .undecodable

/-- The characters of bytes in the encoding with the given name. -/
def decodeNamed (name : String) (bytes : List UInt8) : Except ReadError (List Char) :=
  let capitals := String.ofList (name.toList.map Char.toUpper)
  if capitals = "UTF-8" ∨ capitals = "UTF8" then decodeUtf8 bytes
  else
    match byteEncodings.find? fun e => e.names.contains capitals with
    | none => .error .malformed
    | some encoding =>
      match bytes.mapM fun b => (encoding.code? b.toNat).map Char.ofNat with
      | some chars => .ok chars
      | none => .error .undecodable

/-- The encoding named by the declaration at the start of a document whose first characters are
ASCII. -/
def declaredEncoding (bytes : List UInt8) : Except ReadError (Option String) :=
  match xmlDeclaration? ⟨bytes.map fun b => Char.ofNat b.toNat, []⟩ with
  | some ((encoding?, _), _) => .ok encoding?
  | none => .error .malformed

/-- The characters of a document. -/
def decodeDocument (bytes : List UInt8) : Except ReadError (List Char) :=
  match bytes with
  | 0xEF :: 0xBB :: 0xBF :: rest => decodeUtf8 rest
  | 0xFF :: 0xFE :: rest => decodeUtf16 true rest
  | 0xFE :: 0xFF :: rest => decodeUtf16 false rest
  | 0x3C :: 0x00 :: 0x3F :: 0x00 :: _ => decodeUtf16 true bytes
  | 0x00 :: 0x3C :: 0x00 :: 0x3F :: _ => decodeUtf16 false bytes
  | _ => do
    match ← declaredEncoding bytes with
    | none => decodeUtf8 bytes
    | some name => decodeNamed name bytes

/-- The root element of the document in a file. -/
def read (bytes : List UInt8) : Except ReadError Node := do
  match readText? (← decodeDocument bytes) with
  | some root => return root
  | none => .error .malformed

end ContentTree.Xml
