import ContentTree.Descriptor.Value
import ContentTree.Text.Quoted
/-!
Property values as they are shown in tables. A single value is shown as its text, and a list as its
items in brackets, each in a form that tells its type.
-/

set_option autoImplicit false
set_option relaxedAutoImplicit false

namespace ContentTree

open ContentTree.Text ContentTree.Number

namespace Calendar

/-- A span of microseconds in days, seconds and microseconds, of which only the days may be
negative. -/
def spanLiteral (span : Int) : String :=
  let days := span.fdiv DateTime.dayLength
  let seconds := (span.fmod DateTime.dayLength) / 1000000
  let micro := (span.fmod DateTime.dayLength) % 1000000
  let part (name : String) (value : Int) : List String :=
    if value = 0 then [] else [name ++ "=" ++ toString value]
  "datetime.timedelta(" ++ ", ".intercalate
    (part "days" days ++ part "seconds" seconds ++ part "microseconds" micro) ++ ")"

/-- An offset from universal time in a form that tells its type. -/
def offsetLiteral (offset : Int) : String :=
  if offset = 0 then "datetime.timezone.utc"
  else "datetime.timezone(" ++ spanLiteral offset ++ ")"

/-- A date and time in a form that tells its type. Seconds and microseconds are left out when they
and all that follows them are zero. -/
def DateTime.literal (t : DateTime) : String :=
  let fields := [t.year, t.month, t.day, t.hour, t.minute] ++
    (if t.microsecond = 0 then (if t.second = 0 then [] else [t.second])
      else [t.second, t.microsecond])
  let zone := (t.offset?.map fun offset => ["tzinfo=" ++ offsetLiteral offset]).getD []
  "datetime.datetime(" ++ ", ".intercalate (fields.map toString ++ zone) ++ ")"

end Calendar

namespace Descriptor

/-- The words for truth values. -/
def boolText (b : Bool) : String := if b then "True" else "False"

/-- A scalar as its text. -/
def Scalar.shown : Scalar → String
  | .text s => s
  | .integer i => toString i
  | .float x => plainFloat.write x
  | .decimal d => d.toText
  | .boolean b => boolText b
  | .date t => t.toText " "

/-- A scalar in a form that tells its type. -/
def Scalar.literal : Scalar → String
  | .text s => quoted s
  | .decimal d => "Decimal('" ++ d.toText ++ "')"
  | .date t => t.literal
  | scalar => scalar.shown

/-- A value as it is shown. -/
def Value.shown : Value → String
  | .single scalar => scalar.shown
  | .multiple scalars => "[" ++ ", ".intercalate (scalars.map Scalar.literal) ++ "]"

/-- Whether a value counts as nothing: an empty text or list, zero, or false. -/
def Value.isNothing : Value → Bool
  | .single (.text s) => s == ""
  | .single (.integer i) => i == 0
  | .single (.float x) => x.isZero
  | .single (.decimal d) => d.isZero
  | .single (.boolean b) => !b
  | .single (.date _) => false
  | .multiple scalars => scalars.isEmpty

end Descriptor

end ContentTree
