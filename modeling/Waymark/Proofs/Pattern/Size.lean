import Mathlib.Algebra.Order.BigOperators.Group.List
import Mathlib.Algebra.Order.Group.Nat
import Mathlib.Algebra.Ring.Nat
import Waymark.Pattern.Size
import Waymark.Proofs.Pattern.Meaning
import Waymark.Proofs.Unicode.Tables

/-! # How deep and how large a sequence is

Limits on depth and size are checked on whole patterns. A sequence is one deeper than its
deepest item and as large as its items together, so a pattern put together from items stays
within the limits if the items leave room for it.
-/

namespace Waymark.Pattern

/-! ## Depth -/

namespace Ast

theorem depth_le_other (spine : Spine) (ast : Ast) : ast.depth spine ≤ ast.depth .other := by
  cases ast with
  | cat | alt =>
      simp only [depth, reduceCtorEq, if_false]
      split <;> omega
  | _ => simp [depth]

theorem depth_other_le (spine : Spine) (ast : Ast) : ast.depth .other ≤ ast.depth spine + 1 := by
  cases ast with
  | cat | alt =>
      simp only [depth, reduceCtorEq, if_false]
      omega
  | _ => simp [depth]

variable {item rest : Ast} {items : List Ast} {n : Nat}

theorem depth_append_le (hitem : item.depth .other ≤ n) (hrest : rest.depth .sequence ≤ n) :
    (item.append rest).depth .sequence ≤ n := by
  unfold append
  split
  next => exact Nat.le_trans (depth_le_other .sequence item) hitem
  next =>
    simp only [depth, if_true, Nat.zero_add]
    exact Nat.max_le.mpr ⟨hitem, hrest⟩

/-- A sequence is at most one deeper than its items. -/
theorem depth_sequence_le (h : ∀ item ∈ items, item.depth .other ≤ n) :
    (sequence items).depth .other ≤ n + 1 := by
  have hspine : (sequence items).depth .sequence ≤ n := by
    induction items with
    | nil => simp [sequence, depth]
    | cons item items ih =>
        have hrest := ih fun other hother => h other (List.mem_cons_of_mem item hother)
        exact depth_append_le (h item List.mem_cons_self) hrest
  have hother := depth_other_le .sequence (sequence items)
  omega

end Ast

/-! ## Size -/

namespace CharSet

@[simp]
theorem size_union (a b : CharSet) : (union a b).size = a.size + b.size := rfl

theorem separateRanges_le (highest : Option Nat) (ranges : List (Nat × Nat)) :
    separateRanges highest ranges ≤ ranges.length := by
  induction ranges generalizing highest with
  | nil => simp [separateRanges]
  | cons range ranges ih =>
      have hrest := ih (some (max (highest.getD 0) range.2))
      simp only [separateRanges, List.length_cons]
      split <;> omega

/-- The ranges that count are among those of the tables. -/
theorem size_property_le {p : Unicode.Property} {tables ranges : Nat}
    (h : p.Fits tables ranges) : (property p).size ≤ 64 + 64 * (tables * ranges) := by
  have hcount : rangeCount p.tables ≤ (p.tables.map fun table => table.ranges.size).sum := by
    refine Nat.le_trans (separateRanges_le _ _) ?_
    simp [List.length_flatMap]
  have hsum : (p.tables.map fun table => table.ranges.size).sum ≤ p.tables.length * ranges := by
    have hle := List.sum_le_card_nsmul (p.tables.map fun table => table.ranges.size) ranges
      (List.forall_mem_map.mpr h.ranges)
    rw [List.length_map] at hle
    exact hle
  have htables := Nat.mul_le_mul_right ranges h.tables
  simp only [size]
  omega

end CharSet

namespace Expr

variable {flags : Flags} {item : Ast} {others : List Ast} {m n : Nat}

/-- An item has a meaning of a size at most, and leaves the flags as they are. -/
def Costs (flags : Flags) (item : Ast) (n : Nat) : Prop :=
  ∃ e, elaborate flags item = .ok (e, flags) ∧ e.size ≤ n

theorem Costs.mono (h : Costs flags item m) (hle : m ≤ n) : Costs flags item n := by
  obtain ⟨e, he, hsize⟩ := h
  exact ⟨e, he, Nat.le_trans hsize hle⟩

theorem Costs.append {rest : Ast} (hitem : Costs flags item m) (hrest : Costs flags rest n) :
    Costs flags (item.append rest) (m + n) := by
  obtain ⟨a, ha, hsize⟩ := hitem
  obtain ⟨b, hb, hsize'⟩ := hrest
  unfold Ast.append
  split
  next => exact ⟨a, ha, by omega⟩
  next =>
    refine ⟨cat a b, bind_eq_ok.mpr ⟨_, ha, bind_eq_ok.mpr ⟨_, hb, rfl⟩⟩, ?_⟩
    simp only [size]
    omega

/-- A sequence costs what its first item and the others cost. -/
theorem Costs.cons (hitem : Costs flags item m) (hothers : Costs flags (.sequence others) n) :
    Costs flags (.sequence (item :: others)) (m + n) := hitem.append hothers

theorem costs_group {kind : GroupKind} {body : Ast} (hkind : kind.settings = [])
    (hbody : Costs flags body n) : Costs flags (.group kind body) (64 + n) := by
  obtain ⟨e, he, hsize⟩ := hbody
  refine ⟨kind.wrap e, ?_, ?_⟩
  · rw [elaborate_group, hkind]
    exact map_eq_ok.mpr ⟨_, he, rfl⟩
  · match kind with
    | .plain _ | .capture none =>
        simp only [GroupKind.wrap]
        omega
    | .capture (some name) =>
        simp only [GroupKind.wrap, size]
        omega

theorem costs_optional {body : Ast} {greedy : Bool} (hbody : Costs flags body n) :
    Costs flags (.repeated body 0 (some 1) greedy) (72 + n) := by
  obtain ⟨e, he, hsize⟩ := hbody
  refine ⟨_, bind_eq_ok.mpr ⟨_, he, rfl⟩, ?_⟩
  unfold repetition
  split <;>
  · simp [size]
    omega

end Expr

end Waymark.Pattern
