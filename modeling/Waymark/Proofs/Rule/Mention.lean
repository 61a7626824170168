import Mathlib.Data.List.Forall2
import Mathlib.Data.List.TakeWhile
import Waymark.Rule.Mention
import Waymark.Rule.Segment
import Waymark.Proofs.Outcome
import Waymark.Proofs.Rule.Piece

/-! # Two ways to read the placeholders of a rule

A rule is read once by the compiler, piece by piece and against a vocabulary, and once by the
check of custom rules, which looks for braces only and compares names. On a rule that is well
braced both see the same bodies. Of a body the check sees every part between colons, the compiler
the right-most one that the vocabulary knows; what the vocabulary knows besides, further left,
goes into the affix.
-/

namespace Waymark.Rule

variable {text before after : List Char}

/-! ## The bodies of a rule -/

theorem braceless_beforeBrace (text : List Char) : Braceless (beforeBrace text) := by
  intro c hc
  have htest := List.mem_takeWhile_imp hc
  simpa using htest

theorem isBrace_of_fromBrace {brace : Char} (h : fromBrace text = brace :: after) :
    isBrace brace = true := by
  have hhead := List.head?_dropWhile_not (fun c => !isBrace c) text
  unfold fromBrace at h
  simpa [h] using hhead

/-- A text is what stands in front of its first brace, the brace and what is behind it. -/
theorem eq_append_of_fromBrace {brace : Char} (h : fromBrace text = brace :: after) :
    text = beforeBrace text ++ brace :: after := by
  rw [← h, beforeBrace_append_fromBrace]

theorem bracedBodies_append (h : Braceless before) (rest : List Char) :
    bracedBodies (before ++ rest) = bracedBodies rest := by
  induction before with
  | nil => rfl
  | cons c before ih =>
      have hc : ¬ c = '\x7b' := by
        rintro rfl
        have hbrace := h _ List.mem_cons_self
        simp [isBrace] at hbrace
      rw [List.cons_append, bracedBodies, if_neg hc]
      exact ih fun d hd => h d (List.mem_cons_of_mem c hd)

theorem bracedBodies_token (hfrom : fromBrace text = '\x7d' :: after) :
    bracedBodies ('\x7b' :: text) = beforeBrace text :: bracedBodies after := by
  rw [bracedBodies, if_pos rfl]
  split
  next hfrom' =>
    rw [hfrom] at hfrom'
    cases hfrom'
    rfl
  next hnot => exact absurd hfrom (hnot after)

theorem Piece.bodies_ofText (text : List Char) (pieces : List Piece) :
    bodies (ofText text ++ pieces) = bodies pieces := by
  unfold ofText
  split <;> rfl

/-- On a well-braced rule, what stands between braces is what the pieces hold. -/
theorem Piece.bodies_eq {offset : Nat} {pieces : List Piece} (h : ofRule offset text = .ok pieces) :
    bodies pieces = bracedBodies text := by
  fun_induction ofRule offset text generalizing pieces with
  | case1 offset text hfrom =>
      cases h
      have hempty := bodies_ofText (beforeBrace text) []
      have htext := bracedBodies_append (braceless_beforeBrace text) []
      have happend := beforeBrace_append_fromBrace text
      rw [List.append_nil] at hempty htext
      rw [hfrom, List.append_nil] at happend
      rw [happend] at hempty htext
      rw [happend, hempty, htext, bracedBodies]
      rfl
  | case2 => cases h
  | case3 offset text brace rest hfrom position hbrace after hrest body =>
      rename_i ih
      obtain ⟨behind, hbehind, h⟩ := bind_eq_ok.mp h
      cases h
      have hopen : brace = '\x7b' := by
        have hbrace' := isBrace_of_fromBrace hfrom
        simpa [isBrace, hbrace] using hbrace'
      subst hopen
      have htext := bracedBodies_append (braceless_beforeBrace text) (fromBrace text)
      rw [beforeBrace_append_fromBrace, hfrom, bracedBodies_token hrest, ← ih hbehind] at htext
      rw [bodies_ofText, htext]
      rfl
  | case4 => cases h

/-! ## The keyword of a body -/

variable {vocabulary : OrderedMap String Keyword} {parts : List (List Char)}

theorem rightmostKeyword_eq_none (h : rightmostKeyword vocabulary parts = none) :
    ∀ part ∈ parts, vocabulary.get? (String.ofList part) = none := by
  induction parts with
  | nil => simp
  | cons first parts ih =>
      unfold rightmostKeyword at h
      split at h
      next => cases h
      next hnone =>
        rw [Option.map_eq_none_iff] at h
        rintro part (_ | ⟨_, hpart⟩)
        · exact h
        · exact ih hnone part hpart

theorem rightmostKeyword_eq_some {front back : List (List Char)} {name : String}
    {keyword : Keyword}
    (h : rightmostKeyword vocabulary parts = some (front, (name, keyword), back)) :
    parts = front ++ name.toList :: back ∧ vocabulary.get? name = some keyword ∧
      ∀ part ∈ back, vocabulary.get? (String.ofList part) = none := by
  induction parts generalizing front with
  | nil => cases h
  | cons part parts ih =>
      unfold rightmostKeyword at h
      split at h
      next hfound =>
        cases h
        obtain ⟨hparts, hget, hback⟩ := ih hfound
        exact ⟨by rw [hparts, List.cons_append], hget, hback⟩
      next hnone =>
        obtain ⟨_, hget, heq⟩ := Option.map_eq_some_iff.mp h
        cases heq
        exact ⟨by simp, hget, rightmostKeyword_eq_none hnone⟩

/-- A body gives a placeholder: of its parts between colons the keyword is one that the vocabulary
knows, none behind it is known, and the others are the affixes. -/
def Gives (vocabulary : OrderedMap String Keyword) (body : List Char) (p : Placeholder) : Prop :=
  ∃ front back, Text.splitAll ':' body = front ++ p.keyword.toList :: back ∧
    vocabulary.get? p.keyword = some p.spec ∧
    (∀ part ∈ back, vocabulary.get? (String.ofList part) = none) ∧
    p.prepend = String.ofList (Text.joinAll ':' front) ∧
    p.append = String.ofList (Text.joinAll ':' back)

variable {t : Template}

theorem gives_of_readPlaceholder {body : List Char} {position : Nat} {p : Placeholder}
    (h : readPlaceholder t body position = .ok p) : Gives t.keywords body p := by
  unfold readPlaceholder at h
  dsimp only at h
  split at h
  next front name keyword back hfound =>
    cases h
    obtain ⟨hparts, hget, hback⟩ := rightmostKeyword_eq_some hfound
    exact ⟨front, back, hparts, hget, hback, rfl, rfl⟩
  next => split at h <;> cases h

/-- The placeholders of a rule are those that its bodies give, in order. -/
theorem gives_of_readPieces {pieces : List Piece} {used : List String} {segments : List Segment}
    (h : readPieces t used pieces = .ok segments) :
    List.Forall₂ (Gives t.keywords) (Piece.bodies pieces) (Segment.placeholders segments) := by
  induction pieces generalizing used segments with
  | nil =>
      cases h
      exact .nil
  | cons piece pieces ih =>
      cases piece with
      | literal text =>
          obtain ⟨others, hothers, h⟩ := bind_eq_ok.mp h
          cases h
          have hrest := ih hothers
          simpa [Piece.bodies, Segment.placeholders, List.filterMap_cons, Segment.placeholder?]
            using hrest
      | token body position =>
          obtain ⟨p, hp, h⟩ := bind_eq_ok.mp h
          dsimp only at h
          split at h
          next => cases h
          next =>
            obtain ⟨others, hothers, h⟩ := bind_eq_ok.mp h
            cases h
            exact .cons (gives_of_readPlaceholder hp) (ih hothers)

theorem gives_of_segments {segments : List Segment} (h : Rule.segments t = .ok segments) :
    List.Forall₂ (Gives t.keywords) (bracedBodies t.rule.toList)
      (Segment.placeholders segments) := by
  unfold Rule.segments at h
  split at h
  next => cases h
  next pieces hpieces =>
    rw [← Piece.bodies_eq hpieces]
    exact gives_of_readPieces h

end Waymark.Rule
