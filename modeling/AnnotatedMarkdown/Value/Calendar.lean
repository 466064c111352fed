import AnnotatedMarkdown.Text.CodePoint

/-!
# Dates and times

Dates of the proleptic Gregorian calendar and times of day with an optional offset
from universal time, in seconds.
-/

namespace AnnotatedMarkdown

/-- A date. -/
structure Date where
  year : Nat
  month : Nat
  day : Nat
  deriving DecidableEq

/-- A date with a time of day. -/
structure DateTime where
  date : Date
  hour : Nat
  minute : Nat
  second : Nat
  microsecond : Nat
  offset : Option Int
  deriving DecidableEq

namespace Date

/-- Whether a year has a leap day. -/
def isLeap (year : Nat) : Bool :=
  year % 4 == 0 && (year % 100 != 0 || year % 400 == 0)

/-- The number of days of a month. -/
def daysOf (year month : Nat) : Nat :=
  if month == 2 then if isLeap year then 29 else 28
  else if month == 4 || month == 6 || month == 9 || month == 11 then 30
  else 31

/-- Whether a date exists in the years 1 to 9999. -/
def isValid (d : Date) : Bool :=
  1 ≤ d.year && d.year ≤ 9999 && 1 ≤ d.month && d.month ≤ 12 && 1 ≤ d.day
    && d.day ≤ daysOf d.year d.month

/-- The number of days before a date since the first day of the year 1. -/
def dayNumber (d : Date) : Nat :=
  let y := d.year - 1
  y * 365 + y / 4 - y / 100 + y / 400
    + (List.range (d.month - 1)).foldl (fun days m => days + daysOf d.year (m + 1)) 0 + (d.day - 1)

end Date

/-- A number with leading zeros up to a width. -/
def paddedNumber (width n : Nat) : Text :=
  let digits := Nat.toDigits 10 n
  .ofChars (List.replicate (width - digits.length) '0' ++ digits)

/-- A date as year, month and day with hyphens. -/
def Date.text (d : Date) : Text :=
  Text.concat [paddedNumber 4 d.year, "-", paddedNumber 2 d.month, "-", paddedNumber 2 d.day]

/-- An offset as a sign, hours and minutes, and seconds if there are some. -/
def offsetText (offset : Int) : Text :=
  let n := offset.natAbs
  Text.concat
    [if offset < 0 then "-" else "+", paddedNumber 2 (n / 3600), ":", paddedNumber 2 (n / 60 % 60),
      if n % 60 = 0 then [] else Text.concat [":", paddedNumber 2 (n % 60)]]

namespace DateTime

/-- A date and a time with a separator between them. -/
def textWith (separator : Text) (d : DateTime) : Text :=
  Text.concat
    [d.date.text, separator, paddedNumber 2 d.hour, ":", paddedNumber 2 d.minute, ":",
      paddedNumber 2 d.second,
      if d.microsecond = 0 then [] else Text.concat [".", paddedNumber 6 d.microsecond],
      (d.offset.map offsetText).getD []]

/-- Whether the time of day and the offset are within their ranges. -/
def isValid (d : DateTime) : Bool :=
  d.date.isValid && d.hour < 24 && d.minute < 60 && d.second < 60 && d.microsecond < 1000000
    && (d.offset.all fun o => decide (-86400 < o) && decide (o < 86400))

/-- The microseconds since the first day of the year 1, in universal time if there is
an offset. -/
def instant (d : DateTime) : Int :=
  (((d.date.dayNumber * 24 + d.hour) * 60 + d.minute) * 60 + d.second : Nat) * 1000000
    + d.microsecond - d.offset.getD 0 * 1000000

/-- Whether two times are equal: those with an offset are compared by their instants,
and never equal those without one. -/
def same (a b : DateTime) : Bool :=
  a.offset.isSome == b.offset.isSome && a.instant == b.instant

end DateTime

end AnnotatedMarkdown
