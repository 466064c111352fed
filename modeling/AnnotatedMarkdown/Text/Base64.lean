/-!
# Base 64

Bytes written six bits to a character, four characters to three bytes.  `decode?` reads
them: characters outside the alphabet are skipped, and padding that completes a group of
four ends the bytes.
-/

namespace AnnotatedMarkdown.Base64

/-- The six bits of a character. -/
def sextet? (c : Char) : Option Nat :=
  if c.isUpper then some (c.toNat - 'A'.toNat)
  else if c.isLower then some (c.toNat - 'a'.toNat + 26)
  else if c.isDigit then some (c.toNat - '0'.toNat + 52)
  else if c == '+' then some 62
  else if c == '/' then some 63
  else none

/-- The bytes of characters.  `place` is the number of characters since the last complete
group, `held` the bits that are not yet part of a byte, and `pads` the number of padding
characters since the last character of the alphabet. -/
def decodeFrom (place held pads : Nat) : List Char → Option (List UInt8)
  | [] => if place = 0 then some [] else none
  | c :: cs =>
    if c = '=' then
      if place < 2 then decodeFrom place held pads cs
      else if 4 ≤ place + (pads + 1) then some []
      else decodeFrom place held (pads + 1) cs
    else
      match sextet? c with
      | none => decodeFrom place held pads cs
      | some v =>
        match place with
        | 0 => decodeFrom 1 v 0 cs
        | 1 => (decodeFrom 2 (v % 16) 0 cs).map (UInt8.ofNat (held * 4 + v / 16) :: ·)
        | 2 => (decodeFrom 3 (v % 4) 0 cs).map (UInt8.ofNat (held * 16 + v / 4) :: ·)
        | _ => (decodeFrom 0 0 0 cs).map (UInt8.ofNat (held * 64 + v) :: ·)

/-- The bytes of characters; a group that is not complete has none. -/
def decode? (cs : List Char) : Option (List UInt8) :=
  decodeFrom 0 0 0 cs

end AnnotatedMarkdown.Base64
