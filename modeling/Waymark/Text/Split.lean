/-! # Cutting text at separators

Text is handled as a list of characters. A separator is a single character; cutting loses
nothing, as `splitFirst_eq_some_iff` and `joinAll_splitAll` state.
-/

namespace Waymark.Text

/-- The text before and after the first separator, if there is one. -/
def splitFirst (sep : Char) : List Char → Option (List Char × List Char)
  | [] => none
  | c :: rest =>
      if c = sep then some ([], rest)
      else (splitFirst sep rest).map fun parts => (c :: parts.1, parts.2)

/-- All parts between separators. There is always at least one, possibly empty. -/
def splitAll (sep : Char) : List Char → List (List Char)
  | [] => [[]]
  | c :: rest =>
      if c = sep then [] :: splitAll sep rest
      else match splitAll sep rest with
        | [] => [[c]]
        | part :: parts => (c :: part) :: parts

/-- Writes parts with a separator between any two. -/
def joinAll (sep : Char) : List (List Char) → List Char
  | [] => []
  | [part] => part
  | part :: parts => part ++ sep :: joinAll sep parts

/-- Removes every trailing occurrence of a character. -/
def dropTrailing (c : Char) (text : List Char) : List Char :=
  (text.reverse.dropWhile (· == c)).reverse

/-- Removes a character wherever it stands at either end. -/
def trimBoth (c : Char) (text : List Char) : List Char :=
  dropTrailing c (text.dropWhile (· == c))

/-- The length of text in bytes of UTF-8. -/
def byteLength : List Char → Nat
  | [] => 0
  | c :: rest => c.utf8Size + byteLength rest

theorem byteLength_append (front back : List Char) :
    byteLength (front ++ back) = byteLength front + byteLength back := by
  induction front with
  | nil => simp [byteLength]
  | cons c front ih =>
      rw [List.cons_append, byteLength, byteLength, ih]
      omega

/-- What follows a leading text, compared without regard to ASCII case. -/
def dropLeading? : (leading text : List Char) → Option (List Char)
  | [], text => some text
  | _ :: _, [] => none
  | a :: leading, b :: text =>
      if a.toLower = b.toLower then dropLeading? leading text else none

theorem splitFirst_eq_some_iff {sep : Char} {text before after : List Char} :
    splitFirst sep text = some (before, after) ↔
      text = before ++ sep :: after ∧ sep ∉ before := by
  induction text generalizing before with
  | nil => simp [splitFirst]
  | cons c rest ih =>
      by_cases hsep : c = sep
      · subst hsep
        cases before with
        | nil => simp [splitFirst, eq_comm]
        | cons b before =>
            simp only [splitFirst, if_true, Option.some.injEq, Prod.mk.injEq, List.nil_eq,
              reduceCtorEq, false_and, List.cons_append, List.cons.injEq, List.mem_cons,
              false_iff, not_and]
            rintro ⟨rfl, -⟩ hmem
            exact hmem (.inl rfl)
      · cases before with
        | nil => simp [splitFirst, hsep]
        | cons b before =>
            simp only [splitFirst, hsep, if_false, Option.map_eq_some_iff, Prod.mk.injEq,
              Prod.exists, List.cons.injEq, List.cons_append, List.mem_cons, not_or]
            constructor
            · rintro ⟨before', after', heq, ⟨rfl, rfl⟩, rfl⟩
              obtain ⟨rfl, hmem⟩ := ih.1 heq
              exact ⟨⟨rfl, rfl⟩, fun h => hsep h.symm, hmem⟩
            · rintro ⟨⟨rfl, rfl⟩, -, hmem⟩
              exact ⟨before, after, ih.2 ⟨rfl, hmem⟩, ⟨rfl, rfl⟩, rfl⟩

theorem splitFirst_eq_none_iff {sep : Char} {text : List Char} :
    splitFirst sep text = none ↔ sep ∉ text := by
  induction text with
  | nil => simp [splitFirst]
  | cons c rest ih =>
      by_cases hsep : c = sep
      · simp [splitFirst, hsep]
      · have hne : ¬ sep = c := fun h => hsep h.symm
        simp [splitFirst, hsep, hne, ih]

/-- A text without separators in front of another one moves no separator. -/
theorem splitFirst_append {sep : Char} {front : List Char} (h : sep ∉ front)
    (rest : List Char) :
    splitFirst sep (front ++ rest) =
      (splitFirst sep rest).map fun parts => (front ++ parts.1, parts.2) := by
  induction front with
  | nil => cases hsplit : splitFirst sep rest <;> simp [hsplit]
  | cons c front ih =>
      rw [List.mem_cons, not_or] at h
      rw [List.cons_append, splitFirst, if_neg (Ne.symm h.1), ih h.2, Option.map_map]
      rfl

theorem splitAll_ne_nil (sep : Char) (text : List Char) : splitAll sep text ≠ [] := by
  cases text with
  | nil => simp [splitAll]
  | cons c rest =>
      simp only [splitAll]
      split
      · simp
      · split <;> simp

theorem joinAll_splitAll (sep : Char) (text : List Char) :
    joinAll sep (splitAll sep text) = text := by
  induction text with
  | nil => rfl
  | cons c rest ih =>
      have hne := splitAll_ne_nil sep rest
      by_cases hsep : c = sep
      · subst hsep
        cases hparts : splitAll c rest with
        | nil => exact absurd hparts hne
        | cons part parts =>
            rw [hparts] at ih
            simp [splitAll, hparts, joinAll, ih]
      · cases hparts : splitAll sep rest with
        | nil => exact absurd hparts hne
        | cons part parts =>
            rw [hparts] at ih
            cases parts with
            | nil => simpa [splitAll, hsep, hparts, joinAll] using ih
            | cons next parts => simpa [splitAll, hsep, hparts, joinAll] using ih

end Waymark.Text
