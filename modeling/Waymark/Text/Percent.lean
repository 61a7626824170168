import Waymark.Text.Utf8

/-! # Percent escapes

A percent sign and two hexadecimal digits stand for one byte. A percent sign that is not
followed by two such digits stands for itself.
-/

namespace Waymark.Text.Percent

/-- The value of a byte that is a hexadecimal digit, in either case. -/
def hexValue? (b : UInt8) : Option UInt8 :=
  if 0x30 ≤ b ∧ b ≤ 0x39 then some (b - 0x30)
  else if 0x41 ≤ b ∧ b ≤ 0x46 then some (b - 0x37)
  else if 0x61 ≤ b ∧ b ≤ 0x66 then some (b - 0x57)
  else none

/-- The percent sign. -/
def percentSign : UInt8 := 0x25

/-- Replaces every escape by its byte. -/
def unescape : List UInt8 → List UInt8
  | [] => []
  | [b] => [b]
  | [b, c] => [b, c]
  | b :: c :: d :: rest =>
      if b = percentSign then
        match hexValue? c, hexValue? d with
        | some high, some low => (high * 16 + low) :: unescape rest
        | _, _ => b :: unescape (c :: d :: rest)
      else b :: unescape (c :: d :: rest)

/-- The text that an escaped text stands for. -/
def decode (text : List Char) : List Char := Utf8.decode (unescape (Utf8.encode text))

/-- The upper-case hexadecimal digit of a number below sixteen. -/
def hexDigit (n : UInt8) : Char :=
  if n < 10 then Char.ofNat (0x30 + n.toNat) else Char.ofNat (0x37 + n.toNat)

/-- The escape of one byte. -/
def escapeByte (b : UInt8) : List Char := ['%', hexDigit (b / 16), hexDigit (b % 16)]

end Waymark.Text.Percent
