import Waymark.Unicode.Property
import Waymark.Unicode.Case

/-! # Sets of characters

The sets that a pattern can name, as a small language of set operations with one meaning
function, `contains`. Sets closed under case come in two kinds: by the case orbits of all
characters, or by the case of ASCII letters alone.
-/

namespace Waymark.Pattern

/-- A set of characters. -/
inductive CharSet where
  /-- A single character. -/
  | only (c : Char)
  /-- The characters between two bounds, both included. -/
  | range (low high : Char)
  /-- The characters with a property. -/
  | property (p : Unicode.Property)
  | empty
  | union (a b : CharSet)
  | inter (a b : CharSet)
  | diff (a b : CharSet)
  | symmDiff (a b : CharSet)
  | compl (a : CharSet)
  /-- The characters that differ from a member at most in case. -/
  | folded (a : CharSet)
  /-- The same, where only ASCII letters have case. -/
  | foldedAscii (a : CharSet)

namespace CharSet

/-- The ASCII letter that differs from a character only in case. -/
def asciiVariants (c : Char) : List Char :=
  if c.isUpper then [c.toLower] else if c.isLower then [c.toUpper] else []

/-- Membership. -/
def contains : CharSet → Char → Bool
  | only d, c => c == d
  | range low high, c => low ≤ c && c ≤ high
  | property p, c => p.contains c
  | empty, _ => false
  | union a b, c => a.contains c || b.contains c
  | inter a b, c => a.contains c && b.contains c
  | diff a b, c => a.contains c && !b.contains c
  | symmDiff a b, c => a.contains c != b.contains c
  | compl a, c => !a.contains c
  | folded a, c => a.contains c || (Unicode.caseVariants c).any a.contains
  | foldedAscii a, c => a.contains c || (asciiVariants c).any a.contains

/-- Every character. -/
def any : CharSet := compl empty

/-- The ASCII characters. -/
def ascii : CharSet := range '\x00' '\x7f'

/-- The union of some ranges. -/
def ofRanges (ranges : List (Char × Char)) : CharSet :=
  ranges.foldr (fun bounds acc => union (range bounds.1 bounds.2) acc) empty

/-- ASCII digits. -/
def asciiDigit : CharSet := range '0' '9'

/-- ASCII white space. -/
def asciiSpace : CharSet := ofRanges [('\t', '\r'), (' ', ' ')]

/-- ASCII letters, digits and the underscore. -/
def asciiWord : CharSet := ofRanges [('0', '9'), ('A', 'Z'), ('_', '_'), ('a', 'z')]

/-- Whether none of the characters just above ASCII belongs to a set. For a set of single bytes
this says that it holds ASCII only. -/
def hasNoHighByte (s : CharSet) : Bool :=
  (List.range 0x80).all fun i => !s.contains (Char.ofNat (0x80 + i))

end CharSet

end Waymark.Pattern
