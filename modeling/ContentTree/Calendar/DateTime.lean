/-!
Calendar dates with a time of day and, for zoned times, the offset from universal time. Days
are counted from the first of January of the year one, which is day one and a Monday.
-/

set_option autoImplicit false
set_option relaxedAutoImplicit false

namespace ContentTree.Calendar

/-- Whether a year of the Gregorian calendar has a twenty-ninth of February. -/
def isLeapYear (year : Nat) : Bool :=
  year % 4 == 0 && (year % 100 != 0 || year % 400 == 0)

/-- The number of days of a month. -/
def daysInMonth (year month : Nat) : Nat :=
  if month = 2 then (if isLeapYear year then 29 else 28)
  else if month = 4 ∨ month = 6 ∨ month = 9 ∨ month = 11 then 30 else 31

/-- The number of days before the first of January of a year. -/
def daysBeforeYear (year : Nat) : Nat :=
  let y := year - 1
  y * 365 + y / 4 - y / 100 + y / 400

/-- The weekday of the first of January, Monday being zero. -/
def firstWeekday (year : Nat) : Nat := daysBeforeYear year % 7

/-- Walks from the given month on to the month that holds the day of the year. -/
def monthOfDay (year : Nat) : Nat → Nat → Nat → Nat × Nat
  | 0, month, day => (month, day)
  | fuel + 1, month, day =>
    let size := daysInMonth year month
    if day ≤ size then (month, day) else monthOfDay year fuel (month + 1) (day - size)

/-- Year, month and day of a day of the year that may run over into the next year or, when not
positive, back into the year before. -/
def ofDayOfYear (year : Nat) (day : Int) : Nat × Nat × Nat :=
  let size := if isLeapYear year then 366 else 365
  if day ≤ 0 then
    let before := year - 1
    let length : Int := if isLeapYear before then 366 else 365
    let (month, d) := monthOfDay before 12 1 (length + day).toNat
    (before, month, d)
  else if size < day then
    let (month, d) := monthOfDay (year + 1) 12 1 (day - size).toNat
    (year + 1, month, d)
  else
    let (month, d) := monthOfDay year 12 1 day.toNat
    (year, month, d)

/-- A date and time of day. The offset from universal time is in microseconds. -/
structure DateTime where
  year : Nat
  month : Nat
  day : Nat
  hour : Nat
  minute : Nat
  second : Nat
  microsecond : Nat
  offset? : Option Int
  deriving DecidableEq, Repr

namespace DateTime

/-- The microseconds of a day. -/
def dayLength : Int := 86400000000

/-- Whether every field is in its range. An offset is shorter than a day. -/
def isValid (t : DateTime) : Bool :=
  1 ≤ t.year && t.year ≤ 9999 && 1 ≤ t.month && t.month ≤ 12 && 1 ≤ t.day &&
    t.day ≤ daysInMonth t.year t.month && t.hour < 24 && t.minute < 60 && t.second < 60 &&
    t.microsecond < 1000000 &&
    match t.offset? with
    | none => true
    | some offset => -dayLength < offset && offset < dayLength

/-- A number with leading zeros up to `width` digits. -/
def padded (width n : Nat) : String :=
  let digits := toString n
  String.ofList (List.replicate (width - digits.length) '0') ++ digits

/-- The offset as text: hours and minutes, seconds and their fraction only when not zero. -/
def offsetText (offset : Int) : String :=
  let size := offset.natAbs
  let seconds := size / 1000000
  let micro := size % 1000000
  (if offset < 0 then "-" else "+") ++ padded 2 (seconds / 3600) ++ ":" ++
    padded 2 (seconds / 60 % 60) ++
    (if seconds % 60 = 0 ∧ micro = 0 then "" else ":" ++ padded 2 (seconds % 60)) ++
    (if micro = 0 then "" else "." ++ padded 6 micro)

/-- The date and time as text, with `separator` between the two and a fraction of six digits
only when it is not zero. -/
def toText (separator : String) (t : DateTime) : String :=
  padded 4 t.year ++ "-" ++ padded 2 t.month ++ "-" ++ padded 2 t.day ++ separator ++
    padded 2 t.hour ++ ":" ++ padded 2 t.minute ++ ":" ++ padded 2 t.second ++
    (if t.microsecond = 0 then "" else "." ++ padded 6 t.microsecond) ++
    match t.offset? with
    | none => ""
    | some offset => offsetText offset

end DateTime

end ContentTree.Calendar
