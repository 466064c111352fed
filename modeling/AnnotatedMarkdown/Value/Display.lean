import AnnotatedMarkdown.Number.Shortest
import AnnotatedMarkdown.Python.Literal
import AnnotatedMarkdown.Python.Quoted
import AnnotatedMarkdown.Value.Basic

/-!
# Texts of values

`Value.display` writes a value the way an error message quotes it, and `Value.plain`
the way it is used as a key or as the text of an expression: a text stands for itself
there, and dates are written in their short form.  An integer with too many decimal
digits has no text.
-/

namespace AnnotatedMarkdown

open Python

/-- The decimal digits of an integer, if they are not too many. -/
def decimalText? (n : Int) : Option Text :=
  let digits := Nat.toDigits 10 n.natAbs
  if digits.length ≤ maxDecimalDigits then
    some (.ofChars (if n < 0 then '-' :: digits else digits))
  else none

/-- A date as a constructor call. -/
def Date.display (d : Date) : Text :=
  Text.concat
    ["datetime.date(", .ofNat d.year, ", ", .ofNat d.month, ", ", .ofNat d.day, ")"]

/-- An offset as a constructor call: days may be negative, seconds are not. -/
def offsetDisplay (offset : Int) : Text :=
  if offset = 0 then "datetime.timezone.utc"
  else
    let days := offset.fdiv 86400
    let seconds := offset.fmod 86400
    let parts : List Text :=
      (if days = 0 then [] else [Text.concat ["days=", .ofInt days]]) ++
        (if seconds = 0 then [] else [Text.concat ["seconds=", .ofInt seconds]])
    Text.concat ["datetime.timezone(datetime.timedelta(", Text.join ", " parts, "))"]

/-- A time as a constructor call: trailing zero seconds and microseconds are left out. -/
def DateTime.display (d : DateTime) : Text :=
  let tail :=
    if d.microsecond ≠ 0 then [d.second, d.microsecond]
    else if d.second ≠ 0 then [d.second]
    else []
  let numbers := [d.date.year, d.date.month, d.date.day, d.hour, d.minute] ++ tail
  Text.concat
    ["datetime.datetime(", Text.join ", " (numbers.map Text.ofNat),
      (d.offset.map fun o => Text.concat [", tzinfo=", offsetDisplay o]).getD [], ")"]

mutual

/-- A value as an error message quotes it. -/
def Value.display : Value → Option Text
  | .none => some "None"
  | .bool b => some (if b then "True" else "False")
  | .str t => some (quoted t)
  | .int n => decimalText? n
  | .float x => some x.toText
  | .bytes bs => some (quotedBytes bs)
  | .date d => some d.display
  | .dateTime d => some d.display
  | .list items => do
    let ts ← displayAll items
    return Text.concat ["[", Text.join ", " ts, "]"]
  | .tuple items => do
    let ts ← displayAll items
    return Text.concat
      ["(", Text.join ", " ts, if ts.length = 1 then "," else [], ")"]
  | .set items => do
    let ts ← displayAll items
    return if ts.isEmpty then "set()" else Text.concat ["\x7b", Text.join ", " ts, "\x7d"]
  | .dict entries => do
    let ts ← displayEntries entries
    return Text.concat ["\x7b", Text.join ", " ts, "\x7d"]
  | .deferred source => some (Text.concat ["Deferred(source=", quoted source, ")"])
  | .raw _ _ => some "Raw()"
  | .object _ text => some text

/-- Values as an error message quotes them. -/
def displayAll : List Value → Option (List Text)
  | [] => some []
  | v :: vs => do
    let t ← v.display
    let ts ← displayAll vs
    return t :: ts

/-- Entries as an error message quotes them. -/
def displayEntries : List Entry → Option (List Text)
  | [] => some []
  | .mk k v :: es => do
    let t ← k.display
    let u ← v.display
    let ts ← displayEntries es
    return Text.concat [t, ": ", u] :: ts

end

/-- A value as a key or as the text of an expression. -/
def Value.plain : Value → Option Text
  | .str t => some t
  | .date d => some d.text
  | .dateTime d => some (d.textWith " ")
  | v => v.display

end AnnotatedMarkdown
