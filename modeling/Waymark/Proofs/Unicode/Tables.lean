import Waymark.Unicode.Property

/-! # What the tables of characters hold

A table takes its ranges from a text, and has no more of them than the text has characters. For
the properties that the names of groups and the built-in fragments need, this says which
characters they hold at least and how many ranges they have at most. The texts are long: they are
taken as the lists of characters that they are written from, since reading them back from their
bytes takes too long.
-/

namespace Waymark.Unicode

/-! ## Sizes -/

namespace RangeTable

theorem length_read_le (low current : Option Nat) (text : List Char) :
    (read low current text).length ≤ text.length + current.toList.length := by
  fun_induction read low current text with
  | case1 | case2 => simp
  | case3 | case4 | case5 | case6 =>
      simp only [List.length_cons, List.length_nil, Option.toList_none, Option.toList_some] at *
      omega

/-- A table has at most as many ranges as its text has characters. -/
theorem size_ofText_le (text : String) : (ofText text).ranges.size ≤ text.toList.length :=
  length_read_le none none text.toList

end RangeTable

theorem length_toList_le {text : String} {chars : List Char} {n : Nat}
    (htext : text = String.ofList chars) (h : chars.length ≤ n) : text.toList.length ≤ n := by
  rw [htext, String.toList_ofList]
  exact h

/-- How many tables a property has at most, and how many ranges each of them has. -/
structure Property.Fits (p : Property) (tables ranges : Nat) : Prop where
  tables : p.tables.length ≤ tables
  ranges : ∀ table ∈ p.tables, table.ranges.size ≤ ranges

theorem fits_of_texts {p : Property} {texts : List String} {n : Nat}
    (htables : p.tables = texts.map RangeTable.ofText)
    (htexts : ∀ text ∈ texts, text.toList.length ≤ n) : p.Fits texts.length n := by
  refine ⟨by simp [htables], ?_⟩
  rw [htables, List.forall_mem_map]
  intro text htext
  exact Nat.le_trans (RangeTable.size_ofText_le text) (htexts text htext)

set_option maxRecDepth 100000 in
theorem fits_letters : (ofCategories letterCategories).Fits 5 5300 := by
  refine @fits_of_texts _ [_, _, _, _, _] _ rfl ?_
  simp only [List.mem_cons, List.not_mem_nil, or_false, forall_eq_or_imp, forall_eq]
  refine ⟨?_, ?_, ?_, ?_, ?_⟩
  all_goals
    refine length_toList_le rfl ?_
    decide +kernel

set_option maxRecDepth 100000 in
theorem fits_symbols : (ofCategories symbolCategories).Fits 4 2000 := by
  refine @fits_of_texts _ [_, _, _, _] _ rfl ?_
  simp only [List.mem_cons, List.not_mem_nil, or_false, forall_eq_or_imp, forall_eq]
  refine ⟨?_, ?_, ?_, ?_⟩
  all_goals
    refine length_toList_le rfl ?_
    decide +kernel

/-! ## Letters -/

set_option maxRecDepth 100000 in
theorem contains_alphabetic : ∀ i < 26, alphabetic.contains (Char.ofNat (0x61 + i)) = true := by
  have htable : ∃ text chars, alphabetic = .ofTable (.ofText text) ∧ text = String.ofList chars ∧
      ∀ i < 26, RangeTable.contains ⟨(RangeTable.read none none chars).toArray⟩
        (Char.ofNat (0x61 + i)).toNat = true := by
    refine ⟨_, _, rfl, rfl, ?_⟩
    decide +kernel
  obtain ⟨text, chars, halphabetic, rfl, hcontains⟩ := htable
  intro i hi
  have hfound := hcontains i hi
  rw [halphabetic, Property.ofTable, Property.contains]
  rw [← String.toList_ofList (l := chars)] at hfound
  simpa [RangeTable.ofText] using hfound

/-- ASCII letters in lower case are alphabetic. -/
theorem alphabetic_of_isLower {c : Char} (h : c.isLower = true) : alphabetic.contains c = true := by
  obtain ⟨hlow, hhigh⟩ := Bool.and_eq_true_iff.mp h
  have hbounds : 0x61 ≤ c.toNat ∧ c.toNat ≤ 0x7A :=
    ⟨UInt32.le_iff_toNat_le.mp (of_decide_eq_true hlow),
      UInt32.le_iff_toNat_le.mp (of_decide_eq_true hhigh)⟩
  have hc : c = Char.ofNat (0x61 + (c.toNat - 0x61)) := by
    rw [Nat.add_sub_cancel' hbounds.1, Char.ofNat_toNat]
  rw [hc]
  exact contains_alphabetic _ (by omega)

end Waymark.Unicode
