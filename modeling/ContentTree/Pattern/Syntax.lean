import ContentTree.Pattern.CharClass
/-!
Patterns as trees. Groups are numbered from one in the order of their opening parentheses.
-/

set_option autoImplicit false
set_option relaxedAutoImplicit false

namespace ContentTree.Pattern

/-- Positions that a pattern can ask for. -/
inductive Anchor where
  | textStart
  | textEnd
  /-- The start of the text or of a line. -/
  | lineStart
  /-- The end of the text or of a line. -/
  | lineEnd
  /-- The end of the text, or the line end that closes the text. -/
  | lastLineEnd
  | wordBoundary (asciiOnly : Bool)
  | noWordBoundary (asciiOnly : Bool)
  deriving DecidableEq, Repr

/-- How the number of repetitions is chosen. -/
inductive Greed where
  /-- As many as possible, fewer when what follows does not match otherwise. -/
  | greedy
  /-- As few as possible. -/
  | lazy
  /-- As many as possible, never fewer. -/
  | possessive
  deriving DecidableEq, Repr

/-- A pattern. -/
inductive Node where
  | empty
  | char (modes : Modes) (set : CharClass)
  | seq (first second : Node)
  | alt (first second : Node)
  | repetition (greed : Greed) (least : Nat) (most : Option Nat) (body : Node)
  | group (index : Nat) (body : Node)
  /-- A body whose first match is final. -/
  | atomic (body : Node)
  | backreference (modes : Modes) (index : Nat)
  /-- A condition on what follows, or with a width on what comes before. -/
  | look (behind : Option Nat) (negated : Bool) (body : Node)
  /-- One of two bodies, by whether a group has matched. -/
  | conditional (index : Nat) (matched unmatched : Node)
  | anchor (at_ : Anchor)
  deriving Repr, Inhabited

/-- The least and the greatest number of characters that a pattern takes; no number stands for no
bound. `groups` holds the widths of the groups. -/
def Node.width (groups : List (Nat × Nat × Option Nat)) : Node → Nat × Option Nat
  | .empty | .look .. | .anchor _ => (0, some 0)
  | .char .. => (1, some 1)
  | .seq a b =>
    let (low, high) := a.width groups
    let (low', high') := b.width groups
    (low + low', high.bind fun h => high'.map (h + ·))
  | .alt a b | .conditional _ a b =>
    let (low, high) := a.width groups
    let (low', high') := b.width groups
    (min low low', high.bind fun h => high'.map (max h ·))
  | .repetition _ least most body =>
    let (low, high) := body.width groups
    (low * least, match most, high with
      | some 0, _ | _, some 0 => some 0
      | some n, some h => some (h * n)
      | _, _ => none)
  | .group _ body | .atomic body => body.width groups
  | .backreference _ index => (groups.lookup index).getD (0, none)

end ContentTree.Pattern
