import Waymark.Unicode.CaseTable

/-! # Characters that differ only in case

Every character belongs to one orbit of characters that fold to the same character; most orbits
have one member. `caseVariants` lists the other members of a character's orbit.
-/

namespace Waymark.Unicode

/-- The partner of a code point in one run of case pairs. -/
def partnerIn? (n : Nat) (run : Nat × Nat × Nat × Nat) : Option Nat :=
  let (first, last, step, partner) := run
  if first ≤ n ∧ n ≤ last ∧ (n - first) % step = 0 then some (partner + (n - first))
  else if partner ≤ n ∧ n ≤ partner + (last - first) ∧ (n - partner) % step = 0 then
    some (first + (n - partner))
  else none

/-- The characters other than itself that differ from a character only in case. -/
def caseVariants (c : Char) : List Char :=
  match caseOrbits.find? (·.contains c.toNat) with
  | some orbit => (orbit.filter (· ≠ c.toNat)).map Char.ofNat
  | none => ((casePairs.findSome? (partnerIn? c.toNat)).map Char.ofNat).toList

end Waymark.Unicode
