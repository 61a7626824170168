import Waymark.Pattern.Expr

/-! # The size of a pattern

A counted repetition stands for as many copies of its body as its bounds say. Patterns whose
written-out form would take more than ten mebibytes are refused. The sizes here are estimates of
those of a machine that reads single bytes: 32 bytes for each state, which is one byte of a
character or a choice. How many states a set of characters or a choice takes depends on how the
machine is built, so close to the limit an estimate may fall on the other side of it.
-/

namespace Waymark.Pattern

namespace CharSet

/-- How many of the ranges, given in order, do not touch those before them. -/
def separateRanges : (highest : Option Nat) → List (Nat × Nat) → Nat
  | _, [] => 0
  | highest, (low, high) :: rest =>
      (if highest.any fun last => low ≤ last + 1 then 0 else 1) +
        separateRanges (some (max (highest.getD 0) high)) rest

/-- The number of ranges of the characters in any of some tables. -/
def rangeCount (tables : List Unicode.RangeTable) : Nat :=
  separateRanges none <|
    (tables.flatMap fun table => table.ranges.toList).mergeSort fun a b => a.1 ≤ b.1

/-- An estimate of what a set of characters takes of the ten mebibytes. A range of a property takes
two states as a rule. The 300 bytes for a range that ends beyond ASCII and the 900 bytes for a
complement are round numbers for what their longer characters add, not sizes that were counted. -/
def size : CharSet → Nat
  | only c => 32 * c.utf8Size
  | range _ high => if high.toNat < 0x80 then 64 else 300
  | property p => 64 + 64 * rangeCount p.tables
  | empty => 32
  | union a b => a.size + b.size
  | inter a b => max a.size b.size
  | diff a b => max a.size b.size
  | symmDiff a b => a.size + b.size
  | compl a => 900 + a.size
  | folded a => 2 * a.size
  | foldedAscii a => 2 * a.size

end CharSet

namespace Expr

/-- The largest pattern that is accepted: ten mebibytes. -/
def maxSize : Nat := 10 * 1024 * 1024

/-- An estimate of what a pattern takes of the ten mebibytes once its repetitions are written out.
The bytes for a choice, 40, and for a repetition without a bound, 72, are estimates as well: what
takes a pattern past the limit is that copies of a body add up. -/
def size : Expr → Nat
  | empty => 32
  | anchor _ => 32
  | one set => set.size
  | capture _ body => 64 + body.size
  | cat a b => a.size + b.size
  | alt a b => 40 + a.size + b.size
  | repeated body low none _ => 72 + max low 1 * body.size
  | repeated body low (some high) _ => 32 + low * body.size + (high - low) * (body.size + 40)

end Expr

end Waymark.Pattern
