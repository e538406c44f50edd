import ContentTree.Pattern.Syntax
/-!
Matching a pattern against a whole text. A node is matched against the text from a position on,
and then what follows it; the alternatives of a node are tried in order until what follows
matches too.
-/

set_option autoImplicit false
set_option relaxedAutoImplicit false

namespace ContentTree.Pattern

open ContentTree.Text

/-- A position in a text, and the texts of the groups matched so far. -/
structure Position where
  /-- The characters before the position, the nearest first. -/
  before : List Char
  after : List Char
  groups : List (Nat × List Char)

/-- What follows a node: the position at which the whole match ends, if there is a match. -/
abbrev Continuation := Position → Option Position

/-- A way to match. -/
abbrev Matcher := Continuation → Position → Option Position

/-- Moves over one character. -/
def Position.advance (p : Position) (c : Char) (rest : List Char) : Position :=
  { p with before := c :: p.before, after := rest }

/-- Moves back over a number of characters, if there are as many. -/
def Position.back? (count : Nat) (p : Position) : Option Position :=
  if p.before.length < count then none
  else some { p with
    before := p.before.drop count
    after := (p.before.take count).reverse ++ p.after }

/-- Whether a position satisfies an anchor. -/
def Anchor.holds (p : Position) : Anchor → Bool
  | .textStart => p.before.isEmpty
  | .textEnd => p.after.isEmpty
  | .lineStart => p.before.isEmpty || p.before.head? == some '\n'
  | .lineEnd => p.after.isEmpty || p.after.head? == some '\n'
  | .lastLineEnd => p.after.isEmpty || p.after == ['\n']
  | .wordBoundary asciiOnly => boundary asciiOnly true
  | .noWordBoundary asciiOnly => boundary asciiOnly false
where
  /-- Whether a word starts or ends here; an empty text has neither answer. -/
  boundary (asciiOnly wanted : Bool) : Bool :=
    let word (c? : Option Char) : Bool := c?.any fun c => Category.contains asciiOnly c .word
    !(p.before.isEmpty && p.after.isEmpty) &&
      (word p.before.head? != word p.after.head?) == wanted

/-- Moves over the given text, if it comes next up to the modes. -/
def advanceOver (modes : Modes) : List Char → Position → Option Position
  | [], p => some p
  | d :: text, p =>
    match p.after with
    | c :: rest =>
      if foldCode modes c.toNat = foldCode modes d.toNat then
        advanceOver modes text (p.advance c rest)
      else none
    | [] => none

/-- Matches a body a number of times. -/
def exactly (body : Matcher) : Nat → Matcher
  | 0 => fun k => k
  | n + 1 => fun k => body (exactly body n k)

/-- Whether another repetition is allowed: the bound is not reached, and the last repetition has
moved on. -/
def mayRepeat (most : Option Nat) (count : Nat) (last? : Option Nat) (p : Position) : Bool :=
  most.all (count < ·) && last? != some p.after.length

/-- Further repetitions, as many as possible. -/
def greedily (body : Matcher) (most : Option Nat) : Nat → Nat → Option Nat → Matcher
  | 0, _, _ => fun k => k
  | fuel + 1, count, last? => fun k p =>
    if mayRepeat most count last? p then
      match body (greedily body most fuel (count + 1) (some p.after.length) k) p with
      | some found => some found
      | none => k p
    else k p

/-- Further repetitions, as few as possible. -/
def lazily (body : Matcher) (most : Option Nat) : Nat → Nat → Option Nat → Matcher
  | 0, _, _ => fun k => k
  | fuel + 1, count, last? => fun k p =>
    match k p with
    | some found => some found
    | none =>
      if mayRepeat most count last? p then
        body (lazily body most fuel (count + 1) (some p.after.length) k) p
      else none

/-- A body whose first match is final. -/
def finally_ (body : Matcher) : Matcher := fun k p => (body some p).bind k

/-- Further repetitions that are never given back. -/
def possessively (body : Matcher) (most : Option Nat) : Nat → Nat → Option Nat → Matcher
  | 0, _, _ => fun k => k
  | fuel + 1, count, last? => fun k p =>
    if mayRepeat most count last? p then
      match body some p with
      | some q => possessively body most fuel (count + 1) (some p.after.length) k q
      | none => k p
    else k p

/-- Repetitions between the bounds. The text left bounds the repetitions that move on. -/
def repeatedly (greed : Greed) (least : Nat) (most : Option Nat) (body : Matcher) : Matcher :=
  fun k p =>
    let fuel := p.after.length + 2
    match greed with
    | .greedy => exactly body least (greedily body most fuel least none k) p
    | .lazy => exactly body least (lazily body most fuel least none k) p
    | .possessive =>
      exactly (finally_ body) least (possessively body most fuel least none k) p

/-- Matches a node and then what follows. -/
def Node.run : Node → Matcher
  | .empty => fun k => k
  | .char modes set => fun k p =>
    match p.after with
    | c :: rest => if set.contains modes c then k (p.advance c rest) else none
    | [] => none
  | .seq a b => fun k => a.run (b.run k)
  | .alt a b => fun k p =>
    match a.run k p with
    | some found => some found
    | none => b.run k p
  | .repetition greed least most body => repeatedly greed least most body.run
  | .group index body => fun k p =>
    body.run (fun q =>
      let taken := p.after.take (p.after.length - q.after.length)
      k { q with groups := (index, taken) :: q.groups }) p
  | .atomic body => finally_ body.run
  | .backreference modes index => fun k p =>
    match p.groups.lookup index with
    | some text => (advanceOver modes text p).bind k
    | none => none
  | .look behind negated body => fun k p =>
    let start? := match behind with
      | some width => p.back? width
      | none => some p
    match start?.bind (body.run some), negated with
    | some found, false => k { p with groups := found.groups }
    | none, true => k p
    | _, _ => none
  | .conditional index matched unmatched => fun k p =>
    if (p.groups.lookup index).isSome then matched.run k p else unmatched.run k p
  | .anchor at_ => fun k p => if at_.holds p then k p else none

/-- Whether a pattern matches a text as a whole. -/
def Node.matchesAll (pattern : Node) (text : String) : Bool :=
  (pattern.run (fun p => if p.after.isEmpty then some p else none) ⟨[], text.toList, []⟩).isSome

end ContentTree.Pattern
