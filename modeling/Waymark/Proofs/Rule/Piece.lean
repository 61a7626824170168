import Waymark.Rule.Segment

/-! # Reading the pieces of a rule

A text without braces is a literal piece, or none if it is empty. Where there are tokens, the
first of them is read off with the text in front of it, and what is behind it is read by itself.
-/

namespace Waymark.Rule

/-- A text holds no braces. -/
def Braceless (text : List Char) : Prop := ∀ c ∈ text, isBrace c = false

instance (text : List Char) : Decidable (Braceless text) :=
  List.decidableBAll (fun c => isBrace c = false) text

variable {text before body after : List Char} {brace : Char}

theorem Braceless.all (h : Braceless text) : ∀ c ∈ text, (!isBrace c) = true := by
  intro c hc
  rw [h c hc]
  rfl

theorem beforeBrace_eq_self (h : Braceless text) : beforeBrace text = text := by
  have happend := @List.takeWhile_append_of_pos _ _ text [] h.all
  rwa [List.append_nil, List.takeWhile_nil, List.append_nil] at happend

theorem fromBrace_eq_nil (h : Braceless text) : fromBrace text = [] := by
  have happend := @List.dropWhile_append_of_pos _ _ text [] h.all
  rwa [List.append_nil] at happend

theorem beforeBrace_append (h : Braceless text) (hbrace : isBrace brace = true) :
    beforeBrace (text ++ brace :: after) = text := by
  unfold beforeBrace
  rw [List.takeWhile_append_of_pos h.all, List.takeWhile_cons_of_neg (by simp [hbrace]),
    List.append_nil]

theorem fromBrace_append (h : Braceless text) (hbrace : isBrace brace = true) :
    fromBrace (text ++ brace :: after) = brace :: after := by
  unfold fromBrace
  rw [List.dropWhile_append_of_pos h.all, List.dropWhile_cons_of_neg (by simp [hbrace])]

namespace Piece

variable {offset : Nat}

theorem ofRule_of_braceless (h : Braceless text) : ofRule offset text = .ok (ofText text) := by
  unfold ofRule
  split
  next => rw [beforeBrace_eq_self h]
  next hfrom =>
    rw [fromBrace_eq_nil h] at hfrom
    cases hfrom

/-- The first token is read off with the text in front of it. -/
theorem ofRule_token {pieces : List Piece} (hbefore : Braceless before) (hbody : Braceless body)
    (h : ofRule (offset + Text.byteLength before + Text.byteLength body + 2) after = .ok pieces) :
    ofRule offset (before ++ '\x7b' :: (body ++ '\x7d' :: after)) =
      .ok (ofText before ++ token body (offset + Text.byteLength before) :: pieces) := by
  have hfront := @beforeBrace_append before (body ++ '\x7d' :: after) '\x7b' hbefore rfl
  have htoken := @fromBrace_append before (body ++ '\x7d' :: after) '\x7b' hbefore rfl
  have hname := @beforeBrace_append body after '\x7d' hbody rfl
  have hrest := @fromBrace_append body after '\x7d' hbody rfl
  unfold ofRule
  split
  next hfrom =>
    rw [htoken] at hfrom
    cases hfrom
  next hfrom =>
    rw [htoken] at hfrom
    cases hfrom
    dsimp only
    rw [if_neg (by decide)]
    split
    next hfrom =>
      rw [hrest] at hfrom
      cases hfrom
      rw [hfront, hname, h]
      rfl
    next hnot => exact absurd hrest (hnot after)

end Piece

theorem segments_of_pieces {t : Template} {pieces : List Piece}
    (h : Piece.ofRule 0 t.rule.toList = .ok pieces) : segments t = readPieces t [] pieces := by
  unfold segments
  rw [h]

end Waymark.Rule
