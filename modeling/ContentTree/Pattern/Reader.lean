import ContentTree.Number.Integer
import ContentTree.Pattern.Syntax
import ContentTree.Text.Identifier
/-!
Reading patterns. Beside the usual operators there are named groups, references to groups,
conditions on what follows or precedes, atomic groups and possessive repetitions, groups chosen
by whether another group has matched, and modes switched on for the whole pattern at its start or
for one group. Names of characters are left out.
-/

set_option autoImplicit false
set_option relaxedAutoImplicit false

namespace ContentTree.Pattern

open ContentTree.Number

/-- Why a text is not read as a pattern, although it is not said to be none. -/
inductive Refusal where
  /-- A count of repetitions is beyond all bounds. -/
  | repetitionTooLarge
  /-- A count of repetitions has more digits than integers are read with. -/
  | integerTooLong
  /-- Parentheses are nested deeper than there is room for. -/
  | nestedTooDeep
  /-- The whole pattern has two modes that exclude each other. -/
  | modesClash
  deriving DecidableEq, Repr

/-- The wording of a refusal. -/
def Refusal.message : Refusal → String
  | .repetitionTooLarge => "the repetition number is too large"
  | .integerTooLong => "Exceeds the limit (4300 digits) for integer string conversion"
  | .nestedTooDeep => "maximum recursion depth exceeded"
  | .modesClash => "ASCII and UNICODE flags are incompatible"

/-- Why a text is not a pattern. -/
inductive PatternError where
  | malformed
  | refused (refusal : Refusal)
  deriving DecidableEq, Repr

/-- The state of a reading. -/
structure ReadState where
  rest : List Char
  /-- How many more calls can be nested. -/
  room : Nat
  /-- The modes of the whole pattern. -/
  modes : Modes := {}
  /-- The letters of these modes. -/
  letters : List Char := []
  /-- The number of groups opened. -/
  opened : Nat := 0
  /-- The numbers of the named groups. -/
  names : List (String × Nat) := []
  /-- The widths of the groups closed. -/
  widths : List (Nat × Nat × Option Nat) := []
  /-- Inside a condition on what precedes: the number of groups opened before it. -/
  behind? : Option Nat := none
  /-- The groups that conditional parts ask about. -/
  asked : List Nat := []
  /-- Whether a condition on what precedes can take different numbers of characters, or too many. -/
  uneven : Bool := false
  /-- Whether something is repeated. -/
  repeats : Bool := false

/-- A reading step. -/
abbrev Reading := StateT ReadState (Except PatternError)

/-- What a quantifier needs to know of the part before it. -/
inductive PartKind where
  | anchor
  | repetition
  | other
  deriving DecidableEq, Repr

/-- A part of a sequence. -/
abbrev Part := PartKind × Node

namespace Reading

/-- The text is no pattern. -/
def fail {α : Type} : Reading α := throw .malformed

/-- Goes on only if the condition holds. -/
def require (condition : Bool) : Reading Unit := if condition then pure () else fail

/-- Reads what stands inside, with a number of calls for it. -/
def nested {α : Type} (calls : Nat) (inside : Reading α) : Reading α := do
  let room := (← get).room
  if room < calls then throw (.refused .nestedTooDeep)
  modify fun s => { s with room := room - calls }
  let value ← inside
  modify fun s => { s with room }
  return value

/-- The next character, left in place. -/
def peek : Reading (Option Char) := return (← get).rest.head?

/-- The next character. -/
def next : Reading Char := do
  match (← get).rest with
  | [] => fail
  | c :: rest => modify fun s => { s with rest }; return c

/-- Skips a character if it is next, and tells so. -/
def accept (c : Char) : Reading Bool := do
  if (← peek) = some c then
    let _ ← next
    return true
  else return false

/-- Takes at most `count` characters that pass a test. -/
def takeUpTo (p : Char → Bool) : Nat → Reading (List Char)
  | 0 => return []
  | count + 1 => do
    match ← peek with
    | some c => if p c then return (← next) :: (← takeUpTo p count) else return []
    | none => return []

/-- Whether a mark comes that no backslash stands before. -/
def hasPlain (mark : Char) : List Char → Bool
  | '\\' :: _ :: rest => hasPlain mark rest
  | c :: rest => c == mark || hasPlain mark rest
  | [] => false

/-- What comes after the next mark that no backslash stands before, if no backslash is the last
character. -/
def afterPlain? (mark : Char) : List Char → Option (List Char)
  | ['\\'] => none
  | '\\' :: _ :: rest => afterPlain? mark rest
  | c :: rest => if c = mark then some rest else afterPlain? mark rest
  | [] => some []

/-- Skips a comment and the mark that ends it. -/
def skipPast (mark : Char) : Reading Unit := do
  match afterPlain? mark (← get).rest with
  | some rest => modify fun s => { s with rest }
  | none => fail

/-- The characters up to a closing mark, which is skipped. There has to be one character. -/
def nameUpTo (mark : Char) : Reading String := do
  let text := (← get).rest
  let front := text.takeWhile (· != mark)
  require (front != [] && front.length < text.length)
  modify fun s => { s with rest := text.drop (front.length + 1) }
  return String.ofList front

end Reading

open Reading

/-- The value of a digit of a base. -/
def baseDigit? (base : Nat) (c : Char) : Option Nat :=
  let value? : Option Nat :=
    if '0' ≤ c && c ≤ '9' then some (c.toNat - 48)
    else if 'a' ≤ c && c ≤ 'f' then some (c.toNat - 87)
    else if 'A' ≤ c && c ≤ 'F' then some (c.toNat - 55)
    else none
  value?.filter (· < base)

/-- The number written in a base. -/
def baseValue (base : Nat) (digits : List Char) : Nat :=
  digits.foldl (fun n c => n * base + (baseDigit? base c).getD 0) 0

/-- Whether a character is an octal digit. -/
def isOctal (c : Char) : Bool := (baseDigit? 8 c).isSome

/-- A code of exactly `count` hexadecimal digits. -/
def hexCode (count : Nat) : Reading Nat := do
  let digits ← takeUpTo (fun c => (baseDigit? 16 c).isSome) count
  require (digits.length == count)
  let code := baseValue 16 digits
  require (code < 0x110000)
  return code

/-- The control characters with a letter of their own. -/
def controlEscape? : Char → Option Nat
  | 'a' => some 7
  | 'f' => some 12
  | 'n' => some 10
  | 'r' => some 13
  | 't' => some 9
  | 'v' => some 11
  | _ => none

/-- The category that a letter stands for. -/
def categoryEscape? : Char → Option ClassItem
  | 'd' => some (.category .digit false)
  | 'D' => some (.category .digit true)
  | 's' => some (.category .blank false)
  | 'S' => some (.category .blank true)
  | 'w' => some (.category .word false)
  | 'W' => some (.category .word true)
  | _ => none

/-- Whether a character is a letter of ASCII. -/
def isAsciiLetter (c : Char) : Bool := c.isAlpha

/-- An escape inside a class, after the backslash. -/
def classEscape : Reading ClassItem := do
  let c ← next
  let literal (code : Nat) : ClassItem := .range code code
  if let some item := categoryEscape? c then return item
  if let some code := controlEscape? c then return literal code
  if c = 'b' then return literal 8
  if c = 'x' then return literal (← hexCode 2)
  if c = 'u' then return literal (← hexCode 4)
  if c = 'U' then return literal (← hexCode 8)
  if isOctal c then
    let code := baseValue 8 (c :: (← takeUpTo isOctal 2))
    require (code ≤ 0o377)
    return literal code
  require (!isAsciiDigit c && !isAsciiLetter c)
  return literal c.toNat

/-- A reference to a group that is closed and, inside a condition on what precedes, was opened
before it. -/
def requireClosed (index : Nat) : Reading Unit := do
  let s ← get
  require ((s.widths.lookup index).isSome)
  require (s.behind?.all (index < ·))

/-- An escape outside classes, after the backslash. -/
def escape (modes : Modes) : Reading Part := do
  let c ← next
  let literal (code : Nat) : Part := (.other, .char modes (.single code))
  match c with
  | 'A' => return (.anchor, .anchor .textStart)
  | 'Z' => return (.anchor, .anchor .textEnd)
  | 'b' => return (.anchor, .anchor (.wordBoundary modes.asciiOnly))
  | 'B' => return (.anchor, .anchor (.noWordBoundary modes.asciiOnly))
  | _ => pure ()
  if let some item := categoryEscape? c then return (.other, .char modes ⟨false, [item]⟩)
  if let some code := controlEscape? c then return literal code
  if c = 'x' then return literal (← hexCode 2)
  if c = 'u' then return literal (← hexCode 4)
  if c = 'U' then return literal (← hexCode 8)
  if c = '0' then return literal (baseValue 8 (← takeUpTo isOctal 2))
  if isAsciiDigit c then
    let more ← takeUpTo isAsciiDigit 1
    let third ←
      if isOctal c && more.any isOctal then takeUpTo isOctal 1 else pure []
    if third != [] then
      let code := baseValue 8 (c :: more ++ third)
      require (code ≤ 0o377)
      return literal code
    let index := digitsValue (c :: more)
    requireClosed index
    return (.other, .backreference modes index)
  require (!isAsciiLetter c)
  return literal c.toNat

/-- One end of a range or a single part of a class, given its first character. -/
def classPart (c : Char) : Reading ClassItem :=
  if c = '\\' then classEscape else return .range c.toNat c.toNat

/-- The parts of a class up to its closing bracket. A bracket at the very start is a part. -/
def classItems : Nat → List ClassItem → Reading (List ClassItem)
  | 0, _ => fail
  | fuel + 1, done => do
    let c ← next
    if c = ']' && done != [] then return done
    let item ← classPart c
    if ← accept '-' then
      let d ← next
      if d = ']' then return done ++ [item, .range 45 45]
      match item, ← classPart d with
      | .range low low', .range high high' =>
        require (low == low' && high == high' && low ≤ high)
        classItems fuel (done ++ [.range low high])
      | _, _ => fail
    else classItems fuel (done ++ [item])

/-- The first count of repetitions that is too large. -/
def maxRepetition : Nat := 4294967295

/-- The most characters that a condition on what precedes can take. -/
def maxWidthBehind : Nat := 4294967295

/-- The count of repetitions that digits stand for. -/
def count (digits : List Char) : Reading Nat := do
  if maxIntegerDigits < digits.length then throw (.refused .integerTooLong)
  let value := digitsValue digits
  if maxRepetition ≤ value then throw (.refused .repetitionTooLarge)
  return value

/-- The bounds of a quantifier in braces after the opening brace; nothing if the brace stands for
itself. -/
def bounds? : Reading (Option (Nat × Option Nat)) := do
  let start := (← get).rest
  if start.head? = some '}' then return none
  let low ← takeUpTo isAsciiDigit start.length
  let high ← if ← accept ',' then takeUpTo isAsciiDigit start.length else pure low
  if ← accept '}' then
    -- A backslash at the very end is seen before the bounds are looked at.
    require ((← get).rest != ['\\'])
    let least ← count low
    if high = [] then return some (least, none)
    let most ← count high
    require (least ≤ most)
    return some (least, some most)
  else
    modify fun s => { s with rest := start }
    return none

/-- How a quantifier chooses, by the mark behind it. -/
def greedMark : Reading Greed := do
  if ← accept '?' then return .lazy
  if ← accept '+' then return .possessive
  return .greedy

/-- Applies a quantifier to the last part of a sequence, which is given in reverse. -/
def quantify (least : Nat) (most : Option Nat) (parts : List Part) : Reading (List Part) := do
  match parts with
  | [] => fail
  | (kind, body) :: front =>
    require (kind = .other)
    modify fun s => { s with repeats := true }
    let greed ← greedMark
    return (.repetition, .repetition greed least most body) :: front

/-- The sequence of parts given in reverse. -/
def sequenceOf (parts : List Part) : Node :=
  parts.foldl (fun tail part => match tail with
    | .empty => part.2
    | _ => .seq part.2 tail) .empty

/-- The letters of modes: the letters switched on and off after an opening `(?`, starting with
the letter given, and whether a closing parenthesis ended them. -/
def modeLetters : Nat → List Char → Reading (List Char × Bool × Bool)
  | 0, _ => fail
  | fuel + 1, done => do
    let c ← next
    if c = ')' then return (done, true, false)
    else if c = ':' then return (done, false, false)
    else if c = '-' then return (done, false, true)
    else
      require ("imsxaut".toList.contains c)
      modeLetters fuel (done ++ [c])

/-- Switches one mode. -/
def setMode (value : Bool) (modes : Modes) : Char → Modes
  | 'i' => { modes with ignoreCase := value }
  | 'm' => { modes with multiline := value }
  | 's' => { modes with dotAll := value }
  | 'x' => { modes with verbose := value }
  | 'a' => { modes with asciiOnly := value }
  | 'u' => { modes with asciiOnly := !value }
  | _ => modes

/-- Whether letters stand for modes that exclude each other. -/
def clash (letters : List Char) : Bool := letters.contains 'a' && letters.contains 'u'

/-- The modes of a group after an opening `(?`, from the modes around it: either for the whole
pattern or for the group. -/
def groupModes (around : Modes) : Reading (Modes × Bool) := do
  let fuel := (← get).rest.length + 1
  let (on, whole, minus) ← modeLetters fuel []
  require (!clash on)
  let modes := on.foldl (setMode true) around
  if whole then
    require (on != [])
    modify fun s => { s with letters := s.letters ++ on }
    return (modes, true)
  require (!on.contains 't')
  if minus then
    let (off, closed, again) ← modeLetters fuel []
    require (off != [] && !closed && !again && off.all fun c => c != 'a' && c != 'u' && c != 't')
    require (off.all fun c => !on.contains c)
    return (off.foldl (setMode false) modes, false)
  else
    require (on != [])
    return (modes, false)

/-- Opens a group and gives its number. -/
def openGroup (name? : Option String) : Reading Nat := do
  let s ← get
  let index := s.opened + 1
  match name? with
  | none => set { s with opened := index }
  | some name =>
    require ((s.names.lookup name).isNone)
    set { s with opened := index, names := s.names ++ [(name, index)] }
  return index

/-- The number of the group that a conditional part asks about. -/
def conditionGroup : Reading Nat := do
  let name ← nameUpTo ')'
  let s ← get
  if Text.isIdentifier name then
    match s.names.lookup name with
    | some index => return index
    | none => fail
  else
    match readInteger? name with
    | some (.ofNat index) =>
      require (0 < index)
      modify fun s => { s with asked := index :: s.asked }
      return index
    | _ => fail

mutual

/-- Alternatives up to a closing parenthesis or the end. `modes?` is none at the outermost
level, where the modes of the whole pattern count. -/
def alternatives : Nat → Option Modes → Bool → Reading Node
  | 0, _, _ => fail
  | fuel + 1, modes?, first => do
    let front ← sequence fuel modes? first []
    if ← accept '|' then return .alt front (← alternatives fuel modes? false)
    else return front

/-- Parts up to a bar, a closing parenthesis or the end. -/
def sequence : Nat → Option Modes → Bool → List Part → Reading Node
  | 0, _, _, _ => fail
  | fuel + 1, modes?, first, parts => do
    let s ← get
    let modes := modes?.getD s.modes
    match s.rest with
    | [] => return sequenceOf parts
    | c :: _ =>
      if c = '|' || c = ')' then return sequenceOf parts
      let _ ← next
      if modes.verbose && Text.isAsciiBlank c then sequence fuel modes? first parts
      else if modes.verbose && c = '#' then
        skipPast '\n'
        sequence fuel modes? first parts
      else
        match c with
        | '\\' => sequence fuel modes? first ((← escape modes) :: parts)
        | '[' =>
          let negated ← accept '^'
          let items ← classItems ((← get).rest.length + 1) []
          sequence fuel modes? first ((.other, .char modes ⟨negated, items⟩) :: parts)
        | '?' => sequence fuel modes? first (← quantify 0 (some 1) parts)
        | '*' => sequence fuel modes? first (← quantify 0 none parts)
        | '+' => sequence fuel modes? first (← quantify 1 none parts)
        | '{' =>
          match ← bounds? with
          | some (least, most) => sequence fuel modes? first (← quantify least most parts)
          | none => sequence fuel modes? first ((.other, .char modes (.single 123)) :: parts)
        | '.' =>
          let set : CharClass := if modes.dotAll then ⟨true, []⟩ else ⟨true, [.range 10 10]⟩
          sequence fuel modes? first ((.other, .char { modes with ignoreCase := false } set) :: parts)
        | '^' =>
          let anchor : Anchor := if modes.multiline then .lineStart else .textStart
          sequence fuel modes? first ((.anchor, .anchor anchor) :: parts)
        | '$' =>
          let anchor : Anchor := if modes.multiline then .lineEnd else .lastLineEnd
          sequence fuel modes? first ((.anchor, .anchor anchor) :: parts)
        | '(' =>
          match ← parenthesis fuel modes first (parts.isEmpty && modes?.isNone) with
          | some part => sequence fuel modes? first (part :: parts)
          | none => sequence fuel modes? first parts
        | _ => sequence fuel modes? first ((.other, .char modes (.single c.toNat)) :: parts)

/-- A part in parentheses after the opening one; nothing for comments and for modes of the whole
pattern, which stand only at its start. -/
def parenthesis : Nat → Modes → Bool → Bool → Reading (Option Part)
  | 0, _, _, _ => fail
  | fuel + 1, modes, first, atStart => do
    if !(← accept '?') then return some (.other, ← groupBody fuel modes none)
    let c ← next
    match c with
    | 'P' =>
      if ← accept '<' then
        let name ← nameUpTo '>'
        require (Text.isIdentifier name)
        return some (.other, ← groupBody fuel modes (some name))
      else if ← accept '=' then
        let name ← nameUpTo ')'
        require (Text.isIdentifier name)
        match (← get).names.lookup name with
        | none => fail
        | some index =>
          requireClosed index
          return some (.other, .backreference modes index)
      else fail
    | ':' => return some (.other, ← closed fuel modes)
    | '>' => return some (.other, .atomic (← closed fuel modes))
    | '#' =>
      require (hasPlain ')' (← get).rest)
      skipPast ')'
      return none
    | '=' => return some (.other, .look none false (← closed fuel modes))
    | '!' => return some (.other, .look none true (← closed fuel modes))
    | '<' =>
      let d ← next
      require (d = '=' || d = '!')
      let before := (← get).behind?
      if before.isNone then modify fun s => { s with behind? := some (s.opened + 1) }
      let body ← closed fuel modes
      if before.isNone then modify fun s => { s with behind? := none }
      let (low, high) := body.width (← get).widths
      if high != some low || maxWidthBehind < low then
        modify fun s => { s with uneven := true }
      return some (.other, .look (some low) (d = '!') body)
    | '(' =>
      let index ← conditionGroup
      if (← get).behind?.isSome then requireClosed index
      let yes ← nested 1 (sequence fuel (some modes) false [])
      let no ← if ← accept '|' then nested 1 (sequence fuel (some modes) false []) else pure .empty
      require (← accept ')')
      return some (.other, .conditional index yes no)
    | c =>
      require ("imsxaut-".toList.contains c)
      modify fun s => { s with rest := c :: s.rest }
      let (inner, whole) ← groupModes modes
      if whole then
        require (first && atStart)
        modify fun s => { s with modes := inner }
        return none
      else return some (.other, ← bodyUpToParenthesis fuel inner)

/-- The body of a group without a number, up to and with its closing parenthesis. -/
def closed : Nat → Modes → Reading Node
  | 0, _ => fail
  | fuel + 1, modes => bodyUpToParenthesis fuel modes

/-- Alternatives up to and with a closing parenthesis. -/
def bodyUpToParenthesis : Nat → Modes → Reading Node
  | 0, _ => fail
  | fuel + 1, modes => do
    let body ← nested 2 (alternatives fuel (some modes) false)
    require (← accept ')')
    return body

/-- A numbered group up to and with its closing parenthesis. -/
def groupBody : Nat → Modes → Option String → Reading Node
  | 0, _, _ => fail
  | fuel + 1, modes, name? => do
    let index ← openGroup name?
    let body ← bodyUpToParenthesis fuel modes
    modify fun s => { s with widths := s.widths ++ [(index, body.width s.widths)] }
    return .group index body

end

/-- Reads a pattern with room for a number of nested calls. -/
def read (room : Nat) (text : String) : Except PatternError Node := do
  let chars := text.toList
  let (node, s) ← (alternatives (6 * chars.length + 6) none true).run { rest := chars, room }
  if clash s.letters then throw (.refused .modesClash)
  if s.rest ≠ [] then throw .malformed
  if s.uneven || s.asked.any (s.opened < ·) then throw .malformed
  if s.letters.contains 't' && s.repeats then throw .malformed
  return node

end ContentTree.Pattern
