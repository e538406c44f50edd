import ContentTree.Calendar.DateTime
/-!
Reading dates and times in the forms of ISO 8601: calendar dates and week dates, with or without
separators, any one character between date and time, a fraction after the last given part of the
time, and an offset. An offset below one second is no offset. A text counts as its UTF-8 bytes,
and the end of the text as a zero byte.

The reader is lenient where a format has no further use for the characters: fraction digits past
the sixth are dropped, and between the time and its offset one stray character, or anything after
six fraction digits, is skipped.
-/

set_option autoImplicit false
set_option relaxedAutoImplicit false

namespace ContentTree.Calendar

namespace Iso

/-- The byte at a position, zero past the end. -/
def byteAt (text : Array UInt8) (i : Nat) : Nat := (text.getD i 0).toNat

/-- Whether a byte is an ASCII digit. -/
def isDigit (byte : Nat) : Bool := 48 ≤ byte && byte ≤ 57

/-- The number written by `count` digits from a position on. -/
def digits? (text : Array UInt8) : Nat → Nat → Option Nat
  | 0, _ => some 0
  | count + 1, i => do
    let front ← digits? text count i
    let byte := byteAt text (i + count)
    if isDigit byte then some (front * 10 + (byte - 48)) else none

/-- The number of digits in a row from a position on, counted up to `fuel`. -/
def digitRun (text : Array UInt8) : Nat → Nat → Nat
  | 0, _ => 0
  | fuel + 1, i => if isDigit (byteAt text i) then digitRun text fuel (i + 1) + 1 else 0

/-- Bytes with a meaning. -/
def hyphen : Nat := 45
def weekMark : Nat := 87
def colon : Nat := 58
def point : Nat := 46
def comma : Nat := 44
def plus : Nat := 43

/-- The position at which the date ends. For week dates without a weekday the count of digits
that follow decides, since the parts of a time come in pairs. -/
def dateEnd? (text : Array UInt8) : Option Nat :=
  let size := text.size
  if size = 7 then some 7
  else if byteAt text 4 = hyphen then
    if byteAt text 5 = weekMark then
      if 8 < size ∧ byteAt text 8 = hyphen then
        if size = 9 then none
        else if 10 < size ∧ isDigit (byteAt text 10) then some 8
        else some 10
      else some 8
    else some 10
  else if byteAt text 4 = weekMark then
    let stop := 7 + digitRun text size 7
    if stop < 9 then some stop
    else if stop % 2 = 0 then some 7 else some 8
  else some 8

/-- Year, month and day of a week date. -/
def ofWeek? (year week weekday : Nat) : Option (Nat × Nat × Nat) :=
  let first := firstWeekday year
  let long := first = 3 ∨ (first = 2 ∧ isLeapYear year)
  if year < 1 ∨ 9999 < year ∨ week = 0 ∨ 53 < week ∨ (week = 53 ∧ ¬ long) then none
  else if weekday = 0 ∨ 7 < weekday then none
  else
    let monday : Int := if first ≤ 3 then 1 - (first : Int) else 8 - (first : Int)
    some (ofDayOfYear year (monday + (week - 1 : Nat) * 7 + (weekday - 1 : Nat)))

/-- The date in the first `stop` bytes. -/
def date? (text : Array UInt8) (stop : Nat) : Option (Nat × Nat × Nat) := do
  let year ← digits? text 4 0
  let separated := byteAt text 4 = hyphen
  let i := if separated then 5 else 4
  if byteAt text i = weekMark then
    let week ← digits? text 2 (i + 1)
    let i := i + 3
    if i < stop then
      if separated then
        guard (byteAt text i = hyphen)
        ofWeek? year week (← digits? text 1 (i + 1))
      else ofWeek? year week (← digits? text 1 i)
    else ofWeek? year week 1
  else
    let month ← digits? text 2 i
    if separated then
      guard (byteAt text (i + 2) = hyphen)
      return (year, month, ← digits? text 2 (i + 3))
    else return (year, month, ← digits? text 2 (i + 2))

/-- Hours, minutes, seconds and microseconds. -/
structure Clock where
  hour : Nat
  minute : Nat
  second : Nat
  microsecond : Nat

/-- A reading of a time of day, and whether the text went on after it. -/
abbrev ClockReading := Clock × Bool

/-- The fraction from `i` up to `stop`: at most six digits count, further ones are skipped. -/
def fraction? (text : Array UInt8) (i stop : Nat) (clock : Clock) : Option ClockReading := do
  let count := min 6 (stop - i)
  let value ← digits? text count i
  let next := i + count
  let next := next + digitRun text (text.size + 1) next
  return ({ clock with microsecond := value * Nat.pow 10 (6 - count) }, byteAt text next != 0)

/-- The time of day from `start` up to `stop`. Each part has two digits; the first character
after the hours tells whether colons separate the parts. -/
def clock? (text : Array UInt8) (start stop : Nat) : Option ClockReading := do
  let hour ← digits? text 2 start
  let clock : Clock := ⟨hour, 0, 0, 0⟩
  let c := byteAt text (start + 2)
  let separated := c = colon
  let i := start + 3
  if stop ≤ i then return (clock, c != 0)
  if !separated && (c = point || c = comma) then fraction? text i stop clock
  else
    let i := if separated then i else i - 1
    let minute ← digits? text 2 i
    let clock := { clock with minute }
    let c := byteAt text (i + 2)
    let i := i + 3
    if stop ≤ i then return (clock, c != 0)
    if c = point || c = comma then fraction? text i stop clock
    else
      guard (!separated || c = colon)
      let i := if separated then i else i - 1
      let second ← digits? text 2 i
      let clock := { clock with second }
      let c := byteAt text (i + 2)
      let i := i + 3
      if stop ≤ i then return (clock, c != 0)
      if c = point || c = comma then fraction? text i stop clock
      else
        guard (!separated || c = colon)
        fraction? text (if separated then i else i - 1) stop clock

/-- The first position from `i` on that holds a sign, at least `i + 1` when the text ends. -/
def signPosition (text : Array UInt8) : Nat → Nat → Nat
  | 0, i => i
  | fuel + 1, i =>
    if byteAt text i = plus ∨ byteAt text i = hyphen then i
    else if i + 1 < text.size then signPosition text fuel (i + 1)
    else i + 1

/-- The time of day and offset from `start` on. -/
def time? (text : Array UInt8) (start : Nat) : Option (Clock × Option Int) := do
  let stop := text.size
  let sign := signPosition text (stop + 1) start
  let (clock, more) ← clock? text start sign
  if stop ≤ sign then
    guard (!more)
    return (clock, none)
  else
    let (zone, more) ← clock? text (sign + 1) stop
    guard (!more)
    let seconds : Int := zone.hour * 3600 + zone.minute * 60 + zone.second
    let size := if seconds = 0 then 0 else seconds * 1000000 + zone.microsecond
    return (clock, some (if byteAt text sign = hyphen then -size else size))

/-- The number of bytes of the character that starts with the given byte. -/
def charLength (byte : Nat) : Nat :=
  if byte < 0x80 then 1
  else if byte / 16 = 0xe then 3
  else if byte / 16 = 0xf then 4
  else 2

end Iso

open Iso in
/-- Reads a date, or a date with a time. -/
def readDateTime? (value : String) : Option DateTime := do
  let text := value.toUTF8.data
  guard (7 ≤ text.size)
  let stop ← dateEnd? text
  let (year, month, day) ← date? text stop
  let (clock, offset?) ←
    if stop < text.size then time? text (stop + charLength (byteAt text stop))
    else some (⟨0, 0, 0, 0⟩, none)
  let result : DateTime :=
    ⟨year, month, day, clock.hour, clock.minute, clock.second, clock.microsecond, offset?⟩
  guard result.isValid
  return result

end ContentTree.Calendar
