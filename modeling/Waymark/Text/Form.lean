import Waymark.Text.Split
import Waymark.Text.Percent

/-! # Form-encoded queries

A query is a list of `name=value` pairs between ampersands. In a name or a value a plus sign
is a space and other characters may be percent escapes. Reading skips empty parts; a part
without an equals sign is a name with an empty value.
-/

namespace Waymark.Text.Form

/-- Reads one name or value. -/
def decode (text : List Char) : List Char :=
  Percent.decode (text.map fun c => if c = '+' then ' ' else c)

/-- Reads one part of a query. -/
def parsePart (part : List Char) : List Char × List Char :=
  match splitFirst '=' part with
  | some (name, value) => (decode name, decode value)
  | none => (decode part, [])

/-- The pairs of a query, in order. -/
def parse (query : List Char) : List (List Char × List Char) :=
  ((splitAll '&' query).filter (· ≠ [])).map parsePart

/-- Whether a byte is written as it stands: ASCII letters, digits and `*-._`. -/
def isPlain (b : UInt8) : Bool :=
  (0x30 ≤ b && b ≤ 0x39) || (0x41 ≤ b && b ≤ 0x5A) || (0x61 ≤ b && b ≤ 0x7A) ||
    b == 0x2A || b == 0x2D || b == 0x2E || b == 0x5F

/-- Writes one byte of a name or value. -/
def encodeByte (b : UInt8) : List Char :=
  if isPlain b then [Char.ofNat b.toNat]
  else if b = 0x20 then ['+']
  else Percent.escapeByte b

/-- Writes one name or value. -/
def encode (text : List Char) : List Char := (Utf8.encode text).flatMap encodeByte

/-- Writes one pair. -/
def renderPart (pair : List Char × List Char) : List Char :=
  encode pair.1 ++ '=' :: encode pair.2

/-- Writes pairs as a query. -/
def render (pairs : List (List Char × List Char)) : List Char :=
  joinAll '&' (pairs.map renderPart)

end Waymark.Text.Form
