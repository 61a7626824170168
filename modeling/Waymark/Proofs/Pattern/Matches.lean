import Waymark.Pattern.Regex
import Waymark.Proofs.Pattern.Language
import Waymark.Proofs.Pattern.Search

/-! # All matches of a pattern

After a match the search goes on behind it, so that matches do not overlap. An empty match right
behind another match does not count.
-/

namespace Waymark.Pattern

/-- The cursor behind the next characters. -/
theorem Cursor.On.append {text front rest : List Char} {index : Nat} {before : Option Char}
    (h : On text ⟨index, before, front ++ rest⟩) :
    On text ⟨index + front.length, front.getLast?.or before, rest⟩ := by
  obtain ⟨passed, htext, hindex, hbefore⟩ := h
  dsimp only at htext hindex hbefore
  exact ⟨passed ++ front, by rw [htext, List.append_assoc], by simp [hindex],
    by rw [hbefore, List.getLast?_append]⟩

namespace Expr

/-- The preferred match that starts at a position. -/
def matchAt? (e : Expr) (cursor : Cursor) : Option Thread := (e.run [⟨cursor, []⟩]).head?

/-- The matches that start at some positions, which are given in order. The end of the last match
is told: what starts before it would overlap. -/
def matchesAt (e : Expr) : (last : Option Nat) → List Cursor → List Thread
  | _, [] => []
  | last, cursor :: later =>
      if last.any (cursor.index < ·) then matchesAt e last later
      else match e.matchAt? cursor with
        | none => matchesAt e last later
        | some t =>
            if last = some t.index then matchesAt e last later
            else t :: matchesAt e (some t.index) later

/-- The matches of a pattern in a text, in order. -/
def allMatches (e : Expr) (text : List Char) : List Thread :=
  e.matchesAt none (Cursor.positions 0 none text)

variable {e : Expr} {text front back : List Char} {index : Nat} {before : Option Char}
  {cursor : Cursor} {t : Thread} {last : Option Nat}

/-- The first match is the one that a search finds. -/
theorem head?_allMatches (e : Expr) (text : List Char) :
    (e.allMatches text).head? = e.search text := by
  unfold allMatches search
  induction Cursor.positions 0 none text with
  | nil => rfl
  | cons cursor later ih =>
      have hmatch : (e.run [⟨cursor, []⟩]).head? = e.matchAt? cursor := rfl
      rw [List.findSome?_cons, hmatch, matchesAt, if_neg (by simp)]
      cases e.matchAt? cursor with
      | none => exact ih
      | some t => simp

/-! ## Matches at a position -/

/-- The preferred match is one of the ways through the pattern. -/
theorem steps_of_matchAt? (hon : cursor.On text) (h : e.matchAt? cursor = some t) :
    Steps e ⟨cursor, []⟩ t :=
  steps_of_mem_run hon (List.mem_of_mem_head? h)

/-- There is a match if there is a way through the pattern. -/
theorem exists_matchAt? (hon : cursor.On text) (h : Steps e ⟨cursor, []⟩ t) :
    ∃ u, e.matchAt? cursor = some u :=
  Option.isSome_iff_exists.mp (isSome_head?_run hon h)

/-! ## Going on -/

variable {char : Char} {rest : List Char}

/-- Where no match starts, the search goes on with the next character. -/
theorem matchesAt_of_none (h : e.matchAt? ⟨index, before, char :: rest⟩ = none) :
    e.matchesAt last (Cursor.positions index before (char :: rest)) =
      e.matchesAt last (Cursor.positions (index + 1) (some char) rest) := by
  rw [Cursor.positions, matchesAt, h]
  split <;> rfl

/-- What lies before the end of the last match is passed over. -/
theorem matchesAt_skip :
    e.matchesAt (some (index + front.length)) (Cursor.positions index before (front ++ back)) =
      e.matchesAt (some (index + front.length))
        (Cursor.positions (index + front.length) (front.getLast?.or before) back) := by
  induction front generalizing index before with
  | nil => rfl
  | cons char front ih =>
      rw [List.cons_append, Cursor.positions, matchesAt, if_pos (by simp)]
      have hlength : index + (char :: front).length = index + 1 + front.length := by
        simp only [List.length_cons]
        omega
      rw [hlength, ih]
      cases hlast : front.getLast? <;> simp [List.getLast?_cons, hlast]

/-- A match is found unless it starts before the end of the last one; and the search goes on
behind it. -/
theorem matchesAt_of_some (hlast : ∀ i, last = some i → i ≤ index)
    (h : e.matchAt? ⟨index, before, char :: (front ++ back)⟩ = some t)
    (hindex : t.index = index + 1 + front.length) :
    e.matchesAt last (Cursor.positions index before (char :: (front ++ back))) =
      t :: e.matchesAt (some t.index)
        (Cursor.positions t.index (front.getLast?.or (some char)) back) := by
  have hnot : ¬ last.any (index < ·) = true := by
    cases last with
    | none => simp
    | some i => simpa using hlast i rfl
  have hne : last ≠ some t.index := by
    intro heq
    have hle := hlast _ heq
    omega
  rw [Cursor.positions, matchesAt, if_neg hnot, h]
  dsimp only
  rw [if_neg hne, hindex, matchesAt_skip]

end Expr

/-- What a named group matched, in each of the matches of a pattern in a text. -/
def Regex.captureAll (regex : Regex) (name text : String) : List (List Char) :=
  (regex.expr.allMatches text.toList).filterMap (·.group? name)

end Waymark.Pattern
