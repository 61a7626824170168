/-! # UTF-8 with replacement

Characters to bytes and back. Reading never fails: each maximal ill-formed part of the bytes
becomes one replacement character, so that text which is well formed is read as it was written.
-/

namespace Waymark.Text.Utf8

/-- The character that stands for bytes that are no character. -/
def replacement : Char := '\uFFFD'

/-- The bytes of one character. -/
def encodeChar (c : Char) : List UInt8 :=
  let n := c.toNat
  if n < 0x80 then [n.toUInt8]
  else if n < 0x800 then [(0xC0 + n / 0x40).toUInt8, (0x80 + n % 0x40).toUInt8]
  else if n < 0x10000 then
    [(0xE0 + n / 0x1000).toUInt8, (0x80 + n / 0x40 % 0x40).toUInt8, (0x80 + n % 0x40).toUInt8]
  else
    [(0xF0 + n / 0x40000).toUInt8, (0x80 + n / 0x1000 % 0x40).toUInt8,
      (0x80 + n / 0x40 % 0x40).toUInt8, (0x80 + n % 0x40).toUInt8]

/-- The bytes of a text. -/
def encode (text : List Char) : List UInt8 := text.flatMap encodeChar

/-- How many bytes follow a first byte, and the bounds of the byte right after it. -/
def sequence? (lead : UInt8) : Option (Nat × UInt8 × UInt8) :=
  if 0xC2 ≤ lead ∧ lead ≤ 0xDF then some (1, 0x80, 0xBF)
  else if lead = 0xE0 then some (2, 0xA0, 0xBF)
  else if lead = 0xED then some (2, 0x80, 0x9F)
  else if 0xE1 ≤ lead ∧ lead ≤ 0xEF then some (2, 0x80, 0xBF)
  else if lead = 0xF0 then some (3, 0x90, 0xBF)
  else if 0xF1 ≤ lead ∧ lead ≤ 0xF3 then some (3, 0x80, 0xBF)
  else if lead = 0xF4 then some (3, 0x80, 0x8F)
  else none

/-- The leading bytes that continue a sequence, at most `count` of them: the first must lie
between the given bounds, the others are any continuation bytes. -/
def continuation : (count : Nat) → (low high : UInt8) → List UInt8 → List UInt8
  | 0, _, _, _ => []
  | _ + 1, _, _, [] => []
  | count + 1, low, high, b :: rest =>
      if low ≤ b ∧ b ≤ high then b :: continuation count 0x80 0xBF rest else []

/-- The number that a lead byte and its continuation bytes denote. -/
def scalar (lead : UInt8) (tail : List UInt8) : Nat :=
  let head := match tail.length with
    | 1 => lead.toNat - 0xC0
    | 2 => lead.toNat - 0xE0
    | _ => lead.toNat - 0xF0
  tail.foldl (fun acc b => acc * 0x40 + (b.toNat - 0x80)) head

/-- Reads one character, or one maximal ill-formed part, off the front of a nonempty list whose
head is given apart. Answers the character and the number of bytes used after the head. -/
def readOne (lead : UInt8) (rest : List UInt8) : Char × Nat :=
  if lead < 0x80 then (Char.ofNat lead.toNat, 0)
  else match sequence? lead with
    | none => (replacement, 0)
    | some (count, low, high) =>
        let tail := continuation count low high rest
        if tail.length = count then (Char.ofNat (scalar lead tail), count)
        else (replacement, tail.length)

/-- The text that bytes spell, with replacement characters for what spells nothing. -/
def decode : List UInt8 → List Char
  | [] => []
  | lead :: rest =>
      (readOne lead rest).1 :: decode (rest.drop (readOne lead rest).2)
termination_by bytes => bytes.length
decreasing_by
  simp only [List.length_drop, List.length_cons]
  omega

end Waymark.Text.Utf8
