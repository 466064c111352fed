import AnnotatedMarkdown.Number.Binary64
import AnnotatedMarkdown.Text.CodePoint

/-!
# Shortest decimal texts of binary64 numbers

`shortest` finds the decimal number with the fewest digits that lies among the
reals rounding to a given number, and the nearest of those with that many
digits.  `Binary64.toText` lays the digits out: positionally from `1e-4` up to
`1e16`, with an exponent of at least two digits elsewhere.
-/

namespace AnnotatedMarkdown.Binary64

/-- A finite decimal number: `digits` times ten to `power`. -/
structure Decimal where
  digits : Nat
  power : Int
  deriving DecidableEq

/-- The reals that round to a number, as multiples of `unit.1 / unit.2`. -/
structure Interval where
  low : Nat
  value : Nat
  high : Nat
  unit : Nat × Nat
  closed : Bool

/-- The reals that round to a mantissa and exponent: half a step to both sides, a
quarter below a power of two; the ends belong to it if the mantissa is even. -/
def Interval.of (mantissa : Nat) (exponent : Int) : Interval :=
  let unit := scaleRatio 1 1 (exponent - 2)
  let low := if mantissa = Nat.pow 2 52 ∧ -1074 < exponent then 4 * mantissa - 1 else 4 * mantissa - 2
  { low, value := 4 * mantissa, high := 4 * mantissa + 2, unit, closed := mantissa % 2 == 0 }

/-- Ten to a power as a quotient. -/
def tenPower : Int → Nat × Nat
  | .ofNat k => (Nat.pow 10 k, 1)
  | .negSucc k => (1, Nat.pow 10 (k + 1))

namespace Interval

/-- A decimal number and the ends and the value of the interval over one
denominator: the point and the factor of the ends. -/
def common (i : Interval) (d : Decimal) : Nat × Nat :=
  let (num, den) := tenPower d.power
  (d.digits * num * i.unit.2, i.unit.1 * den)

/-- Whether a decimal number lies in the interval. -/
def holds (i : Interval) (d : Decimal) : Bool :=
  let (point, factor) := i.common d
  if i.closed then i.low * factor ≤ point && point ≤ i.high * factor
  else i.low * factor < point && point < i.high * factor

/-- The distance of a decimal number from the value, in a unit that depends on
its power alone. -/
def distance (i : Interval) (d : Decimal) : Nat :=
  let (point, factor) := i.common d
  let value := i.value * factor
  if value ≤ point then point - value else value - point

/-- The largest multiple of a power of ten that is at most the value. -/
def floor (i : Interval) (power : Int) : Nat :=
  let (num, den) := tenPower power
  i.value * i.unit.1 * den / (i.unit.2 * num)

/-- A member of the interval on the grid of a power of ten: the nearer one of the
value's two neighbours, of two equally near ones the even one. -/
def onGrid? (i : Interval) (power : Int) : Option Decimal :=
  let below : Decimal := ⟨i.floor power, power⟩
  let above : Decimal := ⟨below.digits + 1, power⟩
  if i.holds below then
    if i.holds above then
      let down := i.distance below
      let up := i.distance above
      if down < up then some below
      else if up < down then some above
      else if below.digits % 2 = 0 then some below else some above
    else some below
  else if i.holds above then some above
  else none

/-- The first grid among finer and finer ones that has a member. -/
def coarsest (i : Interval) : (steps : Nat) → (power : Int) → Decimal
  | 0, power => ⟨i.floor power, power⟩
  | steps + 1, power =>
    match i.onGrid? power with
    | some d => d
    | none => coarsest i steps (power - 1)

end Interval

/-- The power of ten of the leading digit, from an estimate that is at most one
too large or too small. -/
def leadingPower (i : Interval) (estimate : Int) : Int :=
  if 1 ≤ i.floor (estimate + 1) then estimate + 1
  else if 1 ≤ i.floor estimate then estimate
  else estimate - 1

/-- The digits that `n` keeps when its trailing zeros go into the power. -/
def stripZeros : (fuel : Nat) → Decimal → Decimal
  | 0, d => d
  | fuel + 1, d =>
    if d.digits % 10 = 0 ∧ d.digits ≠ 0 then stripZeros fuel ⟨d.digits / 10, d.power + 1⟩ else d

/-- The shortest decimal number that rounds to a mantissa and exponent. -/
def shortest (mantissa : Nat) (exponent : Int) : Decimal :=
  if mantissa = 0 then ⟨0, 0⟩
  else
    let i := Interval.of mantissa exponent
    let estimate := ((mantissa.log2 : Int) + exponent) * 30103 / 100000
    stripZeros 20 (i.coarsest 20 (leadingPower i estimate))

/-- Zeros. -/
def zeros (n : Nat) : List Char :=
  List.replicate n '0'

/-- The digits with the point after the first `point` of them; digits that are
missing on either side are zeros. -/
def positional (digits : List Char) (point : Int) : List Char × List Char :=
  if point ≤ 0 then (['0'], zeros (-point).toNat ++ digits)
  else
    let n := point.toNat
    (digits.take n ++ zeros (n - digits.length), digits.drop n)

/-- An exponent with its sign and at least two digits. -/
def exponentText (e : Int) : List Char :=
  let digits := Nat.toDigits 10 e.natAbs
  (if e < 0 then '-' else '+') :: (if digits.length < 2 then '0' :: digits else digits)

/-- The text of a magnitude; `pointed` asks for a fractional part even where it
would be zero. -/
def magnitudeText (pointed : Bool) (d : Decimal) : List Char :=
  let digits := Nat.toDigits 10 d.digits
  let point := (digits.length : Int) + d.power
  if -4 < point ∧ point ≤ 16 then
    let (whole, fraction) := positional digits point
    if fraction.isEmpty then whole ++ (if pointed then ['.', '0'] else [])
    else whole ++ '.' :: fraction
  else
    let fraction := digits.drop 1
    digits.take 1 ++ (if fraction.isEmpty then [] else '.' :: fraction) ++
      'e' :: exponentText (point - 1)

/-- The text of a number, with a fractional part wherever it has no exponent if
`pointed` holds. -/
def toChars (pointed : Bool) : Binary64 → List Char
  | .nan => ['n', 'a', 'n']
  | .infinite negative => (if negative then ['-'] else []) ++ ['i', 'n', 'f']
  | .finite negative m e _ =>
    (if negative then ['-'] else []) ++ magnitudeText pointed (shortest m e)

/-- The shortest text of a number. -/
def toText (x : Binary64) : Text :=
  .ofChars (x.toChars true)

end AnnotatedMarkdown.Binary64
