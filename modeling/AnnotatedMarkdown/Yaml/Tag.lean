import AnnotatedMarkdown.Text.CodePoint

/-!
# Tags

A tag tells what kind of value a node stands for.  A plain scalar without a tag has the
one that its text implies: `Tag.ofPlain` recognises the texts of truth values, numbers,
dates, the null value and the marks of merged mappings and of default values.
-/

namespace AnnotatedMarkdown.Yaml

/-- The kind of value that a node stands for. -/
inductive Tag where
  | null
  | bool
  | int
  | float
  | binary
  | timestamp
  | omap
  | pairs
  | set
  | str
  | seq
  | map
  | merge
  | value
  | unknown
  deriving DecidableEq

/-- The start of the names of tags. -/
def Tag.nameLead : Text :=
  "tag:yaml.org,2002:"

/-- The tags that have names. -/
def Tag.named : List (String × Tag) :=
  [("null", .null), ("bool", .bool), ("int", .int), ("float", .float), ("binary", .binary),
    ("timestamp", .timestamp), ("omap", .omap), ("pairs", .pairs), ("set", .set), ("str", .str),
    ("seq", .seq), ("map", .map), ("merge", .merge), ("value", .value)]

/-- The tag with a name. -/
def Tag.ofName (name : Text) : Tag :=
  match Text.after? nameLead name with
  | some rest => ((named.find? fun t => Text.ofString t.1 == rest).map Prod.snd).getD .unknown
  | none => .unknown

/-! ## Shapes of scalars -/

/-- The rest of a text after an optional sign. -/
def afterSign (cs : List Char) : List Char :=
  match cs with
  | '-' :: rest => rest
  | '+' :: rest => rest
  | _ => cs

/-- Whether a text is not empty and all its characters satisfy a property. -/
def allOf (p : Char → Bool) (cs : List Char) : Bool :=
  !cs.isEmpty && cs.all p

/-- Whether a character is a digit or a low line. -/
def isDigitOrLine (c : Char) : Bool :=
  c.isDigit || c == '_'

/-- Whether characters are a digit and then digits and low lines. -/
def isDigits (cs : List Char) : Bool :=
  match cs with
  | c :: rest => c.isDigit && rest.all isDigitOrLine
  | [] => false

/-- The pieces of characters between colons. -/
def colonPieces : List Char → List (List Char)
  | [] => [[]]
  | c :: cs =>
    if c == ':' then [] :: colonPieces cs
    else
      match colonPieces cs with
      | [] => [[c]]
      | piece :: pieces => (c :: piece) :: pieces

/-- Whether characters are a number below sixty, of one or two digits. -/
def isSixtieth : List Char → Bool
  | [c] => c.isDigit
  | [c, d] => '0' ≤ c && c ≤ '5' && d.isDigit
  | _ => false

/-- Whether characters are an integer: binary, octal, decimal, hexadecimal, or in
sixtieths. -/
def isInteger (cs : List Char) : Bool :=
  let cs := afterSign cs
  match cs with
  | ['0'] => true
  | '0' :: 'b' :: rest => allOf (fun c => c == '0' || c == '1' || c == '_') rest
  | '0' :: 'x' :: rest =>
    allOf (fun c => c.isDigit || ('a' ≤ c && c ≤ 'f') || ('A' ≤ c && c ≤ 'F') || c == '_') rest
  | '0' :: rest => rest.all fun c => ('0' ≤ c && c ≤ '7') || c == '_'
  | _ =>
    match colonPieces cs with
    | first :: others => isDigits first && others.all isSixtieth
    | [] => false

/-- Whether characters are an exponent with a sign, or nothing. -/
def isExponent : List Char → Bool
  | [] => true
  | e :: sign :: digits =>
    (e == 'e' || e == 'E') && (sign == '-' || sign == '+') && allOf Char.isDigit digits
  | _ => false

/-- Whether characters are a fraction without an exponent. -/
def isFractionPart (cs : List Char) : Bool :=
  cs.all isDigitOrLine

/-- Whether characters are a number with a point, infinite or no number. -/
def isFraction (cs : List Char) : Bool :=
  let body := afterSign cs
  let words : List String := [".inf", ".Inf", ".INF"]
  let nans : List String := [".nan", ".NaN", ".NAN"]
  if words.any (fun w => w.toList == body) || nans.any (fun w => w.toList == cs) then true
  else
    match cs with
    | '.' :: rest =>
      isDigits (rest.takeWhile isDigitOrLine) && isExponent (rest.dropWhile isDigitOrLine)
    | _ =>
      let whole := body.takeWhile (· != '.')
      match body.drop whole.length with
      | _ :: rest =>
        match colonPieces whole with
        | [digits] =>
          isDigits digits && isExponent (rest.dropWhile isDigitOrLine)
        | first :: others => isDigits first && others.all isSixtieth && isFractionPart rest
        | [] => false
      | [] => false

/-- The characters after a number of digits, if there are at least and at most so
many. -/
def afterDigits? (least most : Nat) (cs : List Char) : Option (List Char × List Char) :=
  let digits := (cs.take most).takeWhile Char.isDigit
  if least ≤ digits.length then some (digits, cs.drop digits.length) else none

/-- What follows a given character. -/
def afterChar? (c : Char) : List Char → Option (List Char)
  | d :: rest => if c = d then some rest else none
  | [] => none

/-- The digits of a time with an offset. -/
structure TimestampDigits where
  year : List Char
  month : List Char
  day : List Char
  time : Option (List Char × List Char × List Char)
  fraction : List Char
  zone : Option (Option (Bool × List Char × List Char))

/-- The offset at the end of a time: none, universal time, or hours and minutes. -/
def zone? (cs : List Char) : Option (Option (Option (Bool × List Char × List Char))) := do
  match cs with
  | [] => some none
  | _ =>
    match cs.dropWhile fun c => c == ' ' || c == '\t' with
    | ['Z'] => some (some none)
    | sign :: rest =>
      if sign == '-' || sign == '+' then
        let (hours, rest) ← afterDigits? 1 2 rest
        match rest with
        | [] => some (some (some (sign == '-', hours, [])))
        | _ =>
          let (minutes, rest) ← afterDigits? 2 2 (← afterChar? ':' rest)
          if rest.isEmpty then some (some (some (sign == '-', hours, minutes))) else none
      else none
    | [] => none

/-- The digits of a date, possibly with a time. -/
def timestamp? (cs : List Char) : Option TimestampDigits := do
  let (year, rest) ← afterDigits? 4 4 cs
  let (month, rest) ← afterDigits? 1 2 (← afterChar? '-' rest)
  let (day, rest) ← afterDigits? 1 2 (← afterChar? '-' rest)
  match rest with
  | [] => some ⟨year, month, day, none, [], none⟩
  | c :: more =>
    let time ←
      if c == 'T' || c == 't' then some more
      else if c == ' ' || c == '\t' then some (more.dropWhile fun c => c == ' ' || c == '\t')
      else none
    let (hour, rest) ← afterDigits? 1 2 time
    let (minute, rest) ← afterDigits? 2 2 (← afterChar? ':' rest)
    let (second, rest) ← afterDigits? 2 2 (← afterChar? ':' rest)
    let (fraction, rest) :=
      match rest with
      | '.' :: rest => (rest.takeWhile Char.isDigit, rest.dropWhile Char.isDigit)
      | _ => ([], rest)
    let zone ← zone? rest
    some ⟨year, month, day, some (hour, minute, second), fraction, zone⟩

/-- Whether characters are a date or a time: a date alone has two digits for its month
and its day. -/
def isTimestamp (cs : List Char) : Bool :=
  match timestamp? cs with
  | some t => t.time.isSome || (t.month.length == 2 && t.day.length == 2)
  | none => false

/-! ## Implied tags -/

/-- The texts of truth values. -/
def booleans : List (String × Bool) :=
  [("yes", true), ("no", false), ("true", true), ("false", false), ("on", true), ("off", false)]

/-- Whether characters are a word in lower case, in upper case or with a capital. -/
def isCasing (word : String) (cs : List Char) : Bool :=
  let cased := word.toList
  cs == cased || cs == cased.map Char.toUpper
    || cs == (match cased with
      | c :: rest => c.toUpper :: rest
      | [] => [])

/-- The tag that the text of a plain scalar implies. -/
def Tag.ofChars (cs : List Char) : Tag :=
  if cs.isEmpty || cs == ['~'] || isCasing "null" cs then .null
  else if booleans.any fun b => isCasing b.1 cs then .bool
  else if isFraction cs then .float
  else if isInteger cs then .int
  else if cs == ['<', '<'] then .merge
  else if cs == ['='] then .value
  else if isTimestamp cs then .timestamp
  else .str

/-- A text without one line feed at its end. -/
def withoutLastBreak (cs : List Char) : List Char :=
  if 1 < cs.length && cs.getLast? == some '\n' then cs.dropLast else cs

/-- The tag that the text of a plain scalar implies. -/
def Tag.ofPlain (t : Text) : Tag :=
  match t.chars? with
  | some cs => ofChars (withoutLastBreak cs)
  | none => .str

end AnnotatedMarkdown.Yaml
