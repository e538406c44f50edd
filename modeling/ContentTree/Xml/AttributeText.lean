import ContentTree.Xml.Dtd
/-!
The text of attribute values. White space becomes spaces, references to characters and entities
are replaced, and values that are tokens lose their outer spaces and keep one space between two
tokens. The text of an entity is taken as it stands.
-/

set_option autoImplicit false
set_option relaxedAutoImplicit false

namespace ContentTree.Xml

open Reading

/-- The most characters that entities may add to a value. -/
def maxExpansion : Nat := 1000000

/-- The text of an entity inside an attribute value, with its own references replaced. `inside`
holds the entities on the way; meeting one of them again is an error. -/
def expandEntity (dtd : Dtd) : Nat → List String → List Char → Option (List Char)
  | 0, _, _ => none
  | _, _, [] => some []
  | fuel + 1, inside, '&' :: '#' :: more => do
    let (c, cursor) ← charReference ⟨more, []⟩
    return c :: (← expandEntity dtd fuel inside cursor.rest)
  | fuel + 1, inside, '&' :: more => do
    let (n, cursor) ← entityName ⟨more, []⟩
    let front ← match predefinedEntity? n, dtd.entities.lookup n with
      | some c, _ => some [c]
      | none, some (.internal text) =>
        if inside.contains n then none else expandEntity dtd fuel (n :: inside) text
      | none, some _ => none
      | none, none => if dtd.isStrict then none else some []
    let back ← expandEntity dtd fuel inside cursor.rest
    let whole := front ++ back
    if maxExpansion < whole.length then none else return whole
  | fuel + 1, inside, c :: more =>
    if c = '<' then none else return c :: (← expandEntity dtd fuel inside more)

/-- The fuel that suffices to expand the entities of a document. -/
def Dtd.expansionFuel (dtd : Dtd) : Nat :=
  dtd.entities.foldl (fun n e => match e.2 with
    | .internal text => n + text.length + 1
    | _ => n + 1) 1

/-- The value written by the text between quotes. -/
def attributeValue (dtd : Dtd) : Nat → List Char → Option (List Char)
  | 0, _ => none
  | _, [] => some []
  | fuel + 1, '&' :: '#' :: more => do
    let (c, cursor) ← charReference ⟨more, []⟩
    return c :: (← attributeValue dtd fuel cursor.rest)
  | fuel + 1, '&' :: more => do
    let (n, cursor) ← entityName ⟨more, []⟩
    let front ← expandEntity dtd (dtd.expansionFuel + n.length + 3) [] ('&' :: n.toList ++ [';'])
    return front ++ (← attributeValue dtd fuel cursor.rest)
  | fuel + 1, '\r' :: '\n' :: more => return ' ' :: (← attributeValue dtd fuel more)
  | fuel + 1, c :: more => do
    if c = '<' || !isXmlChar c then none
    else return (if isSpace c then ' ' else c) :: (← attributeValue dtd fuel more)

/-- Drops outer spaces and all but one space between two tokens. -/
def collapseSpaces (text : List Char) : List Char :=
  [' '].intercalate ((text.splitOn ' ').filter (· ≠ []))

end ContentTree.Xml
