/-! # Tables of code point ranges

A property of characters is given as a sorted list of ranges of code points. The tables are
written as text, two hexadecimal bounds to a range, and looked up by bisection.
-/

namespace Waymark.Unicode

/-- Sorted, disjoint ranges of code points, both bounds included. -/
structure RangeTable where
  ranges : Array (Nat × Nat)
deriving DecidableEq, Inhabited

namespace RangeTable

/-- The value of an upper-case hexadecimal digit. -/
def digit? (c : Char) : Option Nat :=
  if '0' ≤ c ∧ c ≤ '9' then some (c.toNat - 48)
  else if 'A' ≤ c ∧ c ≤ 'F' then some (c.toNat - 55)
  else none

/-- Reads ranges: `low` is the bound before a hyphen, `current` the number being read. -/
def read : (low current : Option Nat) → List Char → List (Nat × Nat)
  | low, some n, [] => [(low.getD n, n)]
  | _, none, [] => []
  | low, current, c :: rest =>
      match digit? c with
      | some d => read low (some (current.getD 0 * 16 + d)) rest
      | none =>
          if c = '-' then read current none rest
          else match current with
            | some n => (low.getD n, n) :: read none none rest
            | none => read none none rest

/-- The table that a text such as `41-5A 61-7A AA` describes. -/
def ofText (text : String) : RangeTable := ⟨(read none none text.toList).toArray⟩

/-- Bisection between two positions of the table. -/
def search (ranges : Array (Nat × Nat)) (n low high : Nat) : Bool :=
  if low < high then
    let middle := (low + high) / 2
    match ranges[middle]? with
    | none => false
    | some range =>
        if n < range.1 then search ranges n low middle
        else if range.2 < n then search ranges n (middle + 1) high
        else true
  else false
termination_by high - low

/-- Whether a code point lies in one of the ranges. -/
def contains (table : RangeTable) (n : Nat) : Bool :=
  search table.ranges n 0 table.ranges.size

end RangeTable

end Waymark.Unicode
