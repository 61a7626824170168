/-! # Sets of positions

A set of positions of a text as the bits of one number, so that marking a position costs no more
than the length of the text. `contains_insert` is all that there is to know about it.
-/

namespace Waymark.Pattern

/-- A finite set of positions. -/
structure Marks where
  /-- Has the bit of each position of the set. -/
  bits : Nat
deriving DecidableEq

namespace Marks

/-- The set without positions. -/
def empty : Marks := ⟨0⟩

/-- Whether a position is marked. -/
def contains (marks : Marks) (index : Nat) : Bool := marks.bits.testBit index

/-- Marks a position. -/
def insert (marks : Marks) (index : Nat) : Marks := ⟨marks.bits ||| (1 <<< index)⟩

@[simp]
theorem contains_empty (index : Nat) : empty.contains index = false := by
  simp [empty, contains]

@[simp]
theorem contains_insert (marks : Marks) (index other : Nat) :
    (marks.insert index).contains other = (marks.contains other || index == other) := by
  simp only [insert, contains, Nat.testBit_or, Nat.testBit_shiftLeft]
  by_cases heq : index = other
  · subst heq
    simp
  · have hbeq : (index == other) = false := by simp [heq]
    have hbit : (decide (index ≤ other) && Nat.testBit 1 (other - index)) = false := by
      by_cases hle : index ≤ other
      · have hne : other - index ≠ 0 := by omega
        cases hone : Nat.testBit 1 (other - index) with
        | false => simp
        | true => exact absurd (Nat.testBit_one_eq_true_iff_self_eq_zero.mp hone) hne
      · simp [hle]
    rw [hbeq, hbit]

end Marks

end Waymark.Pattern
