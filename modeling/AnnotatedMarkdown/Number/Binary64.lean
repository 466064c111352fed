/-!
# Binary64 numbers

The numbers of the binary64 format in decoded form: a sign, a mantissa of at
most 53 bits and a binary exponent.  Every operation is exact arithmetic on
natural numbers followed by one rounding, `ofRatio`, which goes to the nearest
number and to the even mantissa on a tie.
-/

namespace AnnotatedMarkdown

namespace Binary64

/-- The pairs of mantissa and exponent that stand for a number: the mantissa has
53 bits unless the exponent is the least one. -/
def Canonical (mantissa : Nat) (exponent : Int) : Prop :=
  mantissa < Nat.pow 2 53 ∧ -1074 ≤ exponent ∧ exponent ≤ 971 ∧
    (Nat.pow 2 52 ≤ mantissa ∨ exponent = -1074)

instance (mantissa : Nat) (exponent : Int) : Decidable (Canonical mantissa exponent) :=
  inferInstanceAs (Decidable (_ ∧ _ ∧ _ ∧ _))

end Binary64

/-- A binary64 number: `finite` stands for mantissa times two to the exponent. -/
inductive Binary64 where
  | nan
  | infinite (negative : Bool)
  | finite (negative : Bool) (mantissa : Nat) (exponent : Int)
      (canonical : Binary64.Canonical mantissa exponent)
  deriving DecidableEq

namespace Binary64

/-- Zero with a given sign. -/
def zero (negative : Bool) : Binary64 :=
  .finite negative 0 (-1074) (by decide)

instance : Inhabited Binary64 := ⟨zero false⟩

/-- The quotient rounded to the nearest natural number, on a tie to the even one. -/
def divNearestEven (num den : Nat) : Nat :=
  let q := num / den
  let r := num % den
  if 2 * r < den then q
  else if den < 2 * r then q + 1
  else q + q % 2

/-- A quotient times two to a power, as a quotient. -/
def scaleRatio (num den : Nat) (power : Int) : Nat × Nat :=
  match power with
  | .ofNat k => (num * Nat.pow 2 k, den)
  | .negSucc k => (num, den * Nat.pow 2 (k + 1))

/-- The largest `k` with `2 ^ k` at most `num / den`. -/
def log2Ratio (num den : Nat) : Int :=
  let k : Int := (num.log2 : Int) - (den.log2 : Int)
  let (n, d) := scaleRatio num den (-k)
  if d ≤ n then k else k - 1

/-- The number nearest to a quotient; one too large for the format is infinite. -/
def ofRatio (negative : Bool) (num den : Nat) : Binary64 :=
  if num = 0 ∨ den = 0 then zero negative
  else
    let exponent := max (log2Ratio num den - 52) (-1074)
    let (n, d) := scaleRatio num den (-exponent)
    let mantissa := divNearestEven n d
    let (mantissa, exponent) :=
      if mantissa = Nat.pow 2 53 then (Nat.pow 2 52, exponent + 1) else (mantissa, exponent)
    if h : Canonical mantissa exponent then .finite negative mantissa exponent h
    else .infinite negative

/-- The number nearest to an integer. -/
def ofInt (n : Int) : Binary64 :=
  ofRatio (n < 0) n.natAbs 1

/-- The count of decimal digits of a number. -/
def digitCount (n : Nat) : Nat :=
  (Nat.toDigits 10 n).length

/-- The number nearest to `digits` times ten to a power.  Powers outside the
range of the format are decided without the power being computed. -/
def ofDecimal (negative : Bool) (digits : Nat) (power : Int) : Binary64 :=
  if digits = 0 then zero negative
  else
    let magnitude := power + digitCount digits
    if 400 < magnitude then .infinite negative
    else if magnitude < -400 then zero negative
    else
      match power with
      | .ofNat k => ofRatio negative (digits * Nat.pow 10 k) 1
      | .negSucc k => ofRatio negative digits (Nat.pow 10 (k + 1))

/-- The number with the other sign. -/
def neg : Binary64 → Binary64
  | .nan => .nan
  | .infinite negative => .infinite !negative
  | .finite negative m e h => .finite (!negative) m e h

/-- Whether a number is less than zero. -/
def isNegative : Binary64 → Bool
  | .nan => false
  | .infinite negative => negative
  | .finite negative m _ _ => negative && m != 0

/-- Whether a number is one of the two zeros. -/
def isZero : Binary64 → Bool
  | .finite _ m _ _ => m == 0
  | _ => false

/-- A sign and a magnitude as an integer. -/
def signed (negative : Bool) (magnitude : Nat) : Int :=
  if negative then -(magnitude : Int) else magnitude

/-- The number nearest to an integer times two to a power. -/
def ofDyadic (n : Int) (power : Int) : Binary64 :=
  let (num, den) := scaleRatio n.natAbs 1 power
  ofRatio (n < 0) num den

/-- The sum of two numbers. -/
def add : Binary64 → Binary64 → Binary64
  | .nan, _ => .nan
  | _, .nan => .nan
  | .infinite s, .infinite t => if s = t then .infinite s else .nan
  | .infinite s, .finite .. => .infinite s
  | .finite .., .infinite t => .infinite t
  | .finite s m e _, .finite t n f _ =>
    if m = 0 ∧ n = 0 then zero (s && t)
    else
      let least := min e f
      let aligned (negative : Bool) (mantissa : Nat) (exponent : Int) : Int :=
        signed negative (mantissa * Nat.pow 2 (exponent - least).toNat)
      ofDyadic (aligned s m e + aligned t n f) least

/-- The product of two numbers. -/
def mul : Binary64 → Binary64 → Binary64
  | .nan, _ => .nan
  | _, .nan => .nan
  | .infinite s, .infinite t => .infinite (s != t)
  | .infinite s, .finite t n _ _ => if n = 0 then .nan else .infinite (s != t)
  | .finite s m _ _, .infinite t => if m = 0 then .nan else .infinite (s != t)
  | .finite s m e _, .finite t n f _ =>
    if m * n = 0 then zero (s != t)
    else ofDyadic (signed (s != t) (m * n)) (e + f)

/-- Whether two numbers have the same value: the zeros do, and NaN has none. -/
def sameValue (x y : Binary64) : Bool :=
  (x.isZero && y.isZero) || (decide (x = y) && decide (x ≠ .nan))

/-- The integer that `n` times two to a power equals, if it is one. -/
def dyadicInt? (n : Int) : (power : Int) → Option Int
  | .ofNat k => some (n * Nat.pow 2 k)
  | .negSucc k =>
    let unit : Int := Nat.pow 2 (k + 1)
    if n % unit = 0 then some (n / unit) else none

/-- The integer that a number equals, if it is one. -/
def toInt? : Binary64 → Option Int
  | .finite negative m e _ => dyadicInt? (signed negative m) e
  | _ => none

end Binary64

end AnnotatedMarkdown
