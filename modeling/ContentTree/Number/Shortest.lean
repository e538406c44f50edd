import ContentTree.Number.Binary64
/-!
The shortest decimal that reads back as a given binary64 number. For one digit, two digits and
so on up to seventeen, the two decimals with that many digits next to the number are tried; the
first count with a decimal inside the rounding interval wins, and of two such decimals the
nearer one.
-/

set_option autoImplicit false
set_option relaxedAutoImplicit false

namespace ContentTree.Number

/-- The decimal `digits * 10 ^ exponent`. -/
structure DecimalDigits where
  digits : Nat
  exponent : Int
  deriving DecidableEq, Repr

/-- A rounding interval over a common denominator: the number is `value / den`, and the numbers
between `low / den` and `high / den` round to it, the ends included when `closed`. -/
structure RoundingInterval where
  low : Nat
  value : Nat
  high : Nat
  den : Nat
  closed : Bool

/-- The interval of `m * 2 ^ e`. Below a power of two the spacing is half as wide. -/
def RoundingInterval.ofBinary (m : Nat) (e : Int) : RoundingInterval :=
  let narrow := m = Nat.pow 2 52 ∧ Binary64.minExponent < e
  let low := if narrow then 4 * m - 1 else 4 * m - 2
  let shift := e - 2
  if 0 ≤ shift then
    let p := Nat.pow 2 shift.toNat
    ⟨low * p, 4 * m * p, (4 * m + 2) * p, 1, m % 2 == 0⟩
  else
    ⟨low, 4 * m, 4 * m + 2, Nat.pow 2 (-shift).toNat, m % 2 == 0⟩

/-- The interval in units of `10 ^ k`. -/
def RoundingInterval.inUnits (i : RoundingInterval) (k : Int) : RoundingInterval :=
  if 0 ≤ k then { i with den := i.den * Nat.pow 10 k.toNat }
  else
    let p := Nat.pow 10 (-k).toNat
    { i with low := i.low * p, value := i.value * p, high := i.high * p }

/-- Whether the integer `n` lies in the interval. -/
def RoundingInterval.contains (i : RoundingInterval) (n : Nat) : Bool :=
  let x := n * i.den
  if i.closed then i.low ≤ x && x ≤ i.high else i.low < x && x < i.high

/-- The neighbouring integer of the value that lies in the interval, the nearer of two, and the
even one of two equally near. -/
def RoundingInterval.pick? (i : RoundingInterval) : Option Nat :=
  let below := i.value / i.den
  let above := below + 1
  match i.contains below && below != 0, i.contains above with
  | false, false => none
  | true, false => some below
  | false, true => some above
  | true, true =>
    let down := i.value - below * i.den
    let up := above * i.den - i.value
    if down < up then some below
    else if up < down then some above
    else if below % 2 = 0 then some below else some above

/-- The least `k` with `value < 10 ^ k`, looked for upward from `k`. -/
def decimalMagnitude (value den : Nat) : Nat → Int → Int
  | 0, k => k
  | fuel + 1, k =>
    let small :=
      if 0 ≤ k then value < den * Nat.pow 10 k.toNat
      else value * Nat.pow 10 (-k).toNat < den
    if small then k else decimalMagnitude value den fuel (k + 1)

/-- The first of the digit counts `count, count + 1, …` that has a decimal in the interval. -/
def shortestFrom (i : RoundingInterval) (magnitude : Int) : Nat → Nat → DecimalDigits
  | 0, count =>
    let k := magnitude - count
    let j := i.inUnits k
    ⟨Binary64.roundQuotient j.value j.den, k⟩
  | fuel + 1, count =>
    let k := magnitude - count
    match (i.inUnits k).pick? with
    | some n => ⟨n, k⟩
    | none => shortestFrom i magnitude fuel (count + 1)

/-- Removes trailing zeros, moving them into the exponent. -/
def DecimalDigits.strip : Nat → DecimalDigits → DecimalDigits
  | 0, d => d
  | fuel + 1, d =>
    if d.digits != 0 && d.digits % 10 == 0 then strip fuel ⟨d.digits / 10, d.exponent + 1⟩ else d

/-- The shortest decimal that rounds to `m * 2 ^ e`. -/
def shortest (m : Nat) (e : Int) : DecimalDigits :=
  if m = 0 then ⟨0, 0⟩
  else
    let i := RoundingInterval.ofBinary m e
    let start : Int := ((m.log2 : Int) + e) * 30103 / 100000 - 1
    let magnitude := decimalMagnitude i.value i.den 8 start
    DecimalDigits.strip 20 (shortestFrom i magnitude 17 1)

end ContentTree.Number
