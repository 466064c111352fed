import AnnotatedMarkdown.Text.Base64
import AnnotatedMarkdown.Text.Blank
import AnnotatedMarkdown.Unicode.Character
import AnnotatedMarkdown.Yaml.Cursor
import AnnotatedMarkdown.Yaml.Tag

/-!
# Values of scalars

`constant tag text` is the value that a scalar with a given tag stands for.  A tag that
is written out may stand in front of any text, so that numbers are read leniently: they
may have blank characters around them, a second sign, and the digits of any script.
-/

namespace AnnotatedMarkdown.Yaml

open Python (digitsValue decimalValue maxDecimalDigits)

/-! ## Numbers -/

/-- Whether a character may stand around a number. -/
def isNumberBlank (c : Char) : Bool :=
  c == ' ' || (9 ≤ c.toNat && c.toNat ≤ 13)

/-- The character that stands for another one in a number: a decimal digit for a digit of
any script, a space for a blank character.  No other one has a meaning there. -/
def numberChar (c : Char) : Char :=
  if c.toNat < 128 then c
  else if (CodePoint.scalar c).isBlank then ' '
  else
    match Unicode.digitValue? c with
    | some n => Char.ofNat (48 + n)
    | none => '?'

/-- The characters of a number in their usual form, without blank ones at their ends. -/
def trimNumber (cs : List Char) : List Char :=
  let cs := (cs.map numberChar).dropWhile isNumberBlank
  (cs.reverse.dropWhile isNumberBlank).reverse

/-- A sign, and what follows it. -/
def splitSign (cs : List Char) : Bool × List Char :=
  (cs.head? == some '-', afterSign cs)

/-- An integer with a sign. -/
def withSign (isNegative : Bool) (n : Int) : Int :=
  if isNegative then -n else n

/-- What follows the mark of a base, which need not be there. -/
def afterBaseMark (base : Nat) (cs : List Char) : List Char :=
  match cs with
  | '0' :: c :: rest =>
    let mark := c.toLower
    if (base == 16 && mark == 'x') || (base == 8 && mark == 'o') || (base == 2 && mark == 'b') then
      rest
    else cs
  | _ => cs

/-- The integer that characters stand for in a base. -/
def integer? (base : Nat) (cs : List Char) : Option Int :=
  let (isNegative, cs) := splitSign (trimNumber cs)
  let digits := afterBaseMark base cs
  let isDigit (c : Char) : Bool := (Unicode.hexDigit? c).any (· < base)
  if allOf isDigit digits && (base != 10 || digits.length ≤ maxDecimalDigits) then
    some (withSign isNegative (digitsValue base digits))
  else none

/-- The number that digits to the base sixty stand for, the most significant one first. -/
def sixtieths (digits : List Int) : Int :=
  digits.foldl (fun n d => n * 60 + d) 0

/-- The value of a scalar that is an integer. -/
def integerConstant (cs : List Char) : Except Fault Int :=
  let cs := cs.filter (· != '_')
  if cs.isEmpty then .error (.defect .emptyNumber)
  else
    let (isNegative, cs) := splitSign cs
    let read (base : Nat) (cs : List Char) : Except Fault Int :=
      match integer? base cs with
      | some n => .ok (withSign isNegative n)
      | none => .error (.defect .malformedNumber)
    match cs with
    | [] => .error (.defect .emptyNumber)
    | ['0'] => .ok 0
    | '0' :: 'b' :: rest => read 2 rest
    | '0' :: 'x' :: rest => read 16 rest
    | '0' :: _ => read 8 cs
    | _ =>
      if cs.contains ':' then
        match (colonPieces cs).mapM (integer? 10) with
        | some digits => .ok (withSign isNegative (sixtieths digits))
        | none => .error (.defect .malformedNumber)
      else read 10 cs

/-- Whether characters are a decimal fraction, possibly with an exponent. -/
def isDecimal (cs : List Char) : Bool :=
  let mantissa := cs.takeWhile (· != 'e')
  let whole := mantissa.takeWhile (· != '.')
  let fraction := (mantissa.drop whole.length).drop 1
  let exponent := cs.drop mantissa.length
  whole.all Char.isDigit && fraction.all Char.isDigit && !(whole ++ fraction).isEmpty
    && (exponent.isEmpty || allOf Char.isDigit (afterSign (exponent.drop 1)))

/-- The number that characters in lower case stand for. -/
def fraction? (cs : List Char) : Option Binary64 :=
  let (isNegative, cs) := splitSign (trimNumber cs)
  let signed (x : Binary64) : Binary64 := if isNegative then x.neg else x
  let words : List String := ["inf", "infinity"]
  if words.any fun w => w.toList == cs then some (signed (.infinite false))
  else if "nan".toList == cs then some .nan
  else if isDecimal cs then some (signed (decimalValue cs))
  else none

/-- The sum of digits to the base sixty, the least significant one first; `weight` is the
weight of the first one.  A weight beyond all numbers is refused. -/
def weighDigits (weight : Nat) (sum : Binary64) : List Binary64 → Option Binary64
  | [] => some sum
  | d :: ds =>
    match Binary64.ofInt weight with
    | .infinite _ => none
    | w => weighDigits (weight * 60) (sum.add (d.mul w)) ds

/-- The value of a scalar that is a number with a point. -/
def fractionConstant (cs : List Char) : Except Fault Binary64 :=
  let cs := (cs.filter (· != '_')).map Char.toLower
  if cs.isEmpty then .error (.defect .emptyNumber)
  else
    let (isNegative, cs) := splitSign cs
    let signed (x : Binary64) : Binary64 := if isNegative then x.neg else x
    if ".inf".toList == cs then .ok (signed (.infinite false))
    else if ".nan".toList == cs then .ok .nan
    else if cs.contains ':' then
      match (colonPieces cs).mapM fraction? with
      | some digits =>
        match weighDigits 1 (.zero false) digits.reverse with
        | some x => .ok (signed x)
        | none => .error (.defect .oversizedNumber)
      | none => .error (.defect .malformedNumber)
    else
      match fraction? cs with
      | some x => .ok (signed x)
      | none => .error (.defect .malformedNumber)

/-! ## Times -/

/-- The number that decimal digits stand for. -/
def decimal (digits : List Char) : Nat :=
  digitsValue 10 digits

/-- The microseconds of the digits of a fraction of a second; further digits are cut
off. -/
def microseconds (fraction : List Char) : Nat :=
  let digits := fraction.take 6
  decimal digits * Nat.pow 10 (6 - digits.length)

/-- The seconds of an offset, of which none is universal time. -/
def offsetSeconds : Option (Bool × List Char × List Char) → Int
  | none => 0
  | some (isNegative, hours, minutes) =>
    withSign isNegative ((decimal hours * 60 + decimal minutes) * 60 : Nat)

/-- The value of a scalar that is a date or a time. -/
def timeConstant (cs : List Char) : Except Fault Value :=
  match timestamp? (withoutLastBreak cs) with
  | none => .error (.defect .malformedTimestamp)
  | some t =>
    let date : Date := ⟨decimal t.year, decimal t.month, decimal t.day⟩
    match t.time with
    | none => if date.isValid then .ok (.date date) else .error (.defect .impossibleDate)
    | some (hour, minute, second) =>
      let time : DateTime :=
        ⟨date, decimal hour, decimal minute, decimal second, microseconds t.fraction,
          t.zone.map offsetSeconds⟩
      if time.isValid then .ok (.dateTime time) else .error (.defect .impossibleDate)

/-! ## All scalars -/

/-- The value of a scalar that is a truth value. -/
def booleanConstant (cs : List Char) : Except Fault Bool :=
  let word := cs.map Char.toLower
  match booleans.find? fun b => b.1.toList == word with
  | some (_, b) => .ok b
  | none => .error (.defect .malformedBoolean)

/-- The value of a scalar that holds bytes. -/
def bytesConstant (t : Text) : Except Fault (List UInt8) :=
  if t.all fun c => c.val < 128 then
    match Base64.decode? (t.filterMap CodePoint.char?) with
    | some bs => .ok bs
    | none => .error .malformed
  else .error .malformed

/-- The characters of a text, with a mark for each that is none. -/
def markedChars (t : Text) : List Char :=
  t.map fun c => c.char?.getD '?'

/-- The value that a scalar with a tag stands for. -/
def constant (tag : Tag) (t : Text) : Except Fault Value :=
  match tag with
  | .null => .ok .none
  | .bool => (booleanConstant (markedChars t)).map .bool
  | .int => (integerConstant (markedChars t)).map .int
  | .float => (fractionConstant (markedChars t)).map .float
  | .binary => (bytesConstant t).map .bytes
  | .timestamp => timeConstant (markedChars t)
  | .str => .ok (.str t)
  | _ => .error .malformed

end AnnotatedMarkdown.Yaml
