import Waymark.Proofs.Route.Reading

/-! # What a rule says about paths

A rule describes paths segment by segment: a literal contributes its own text, a placeholder a
value of its keyword between its affixes, and a placeholder with affixes may contribute nothing
at all. A path that is put together in this way decomposes along the rule; the decomposition
binds the values of those placeholders that are present to their parameters.
-/

namespace Waymark

open Pattern

namespace Keyword

/-- The values that a keyword admits. -/
def language (k : Keyword) : Language Char :=
  match Regex.compile k.regexp with
  | .ok regex => regex.expr.language
  | .error _ => 0

theorem language_eq {k : Keyword} {regex : Regex} (h : Regex.compile k.regexp = .ok regex) :
    k.language = regex.expr.language := by
  unfold language
  rw [h]

theorem mem_language {k : Keyword} {regex : Regex} {value : List Char}
    (h : Regex.compile k.regexp = .ok regex) (hvalue : value ∈ regex.expr.language) :
    value ∈ k.language := by
  rw [language_eq h]
  exact hvalue

end Keyword

namespace Rule

namespace Segment

/-- What a segment may contribute to a path, with the value of its placeholder. -/
inductive Yields : Segment → Option (List Char) → List Char → Prop
  | literal (text : String) : Yields (literal text) none text.toList
  | present {p : Placeholder} {value : List Char} (hvalue : value ∈ p.spec.language) :
      Yields (placeholder p) (some value) (p.prepend.toList ++ value ++ p.append.toList)
  | absent {p : Placeholder} (haffix : p.hasAffix = true) : Yields (placeholder p) none []

/-- The parameter that a segment binds. -/
def param? : Segment → Option String
  | literal _ => none
  | placeholder p => p.spec.param

/-- What a segment binds, given the value of its placeholder. -/
def bound (segment : Segment) (value : Option (List Char)) : List (String × String) :=
  match segment.param?, value with
  | some param, some value => [(param, String.ofList value)]
  | _, _ => []

/-- The parameters that a rule binds, in order. -/
def params (segments : List Segment) : List String := segments.filterMap param?

end Segment

/-- A text is made of what the segments of a rule contribute, one after another. The pairs are
the parameters of the placeholders that are present, with their values. -/
inductive Decomposes : List Segment → List Char → List (String × String) → Prop
  | nil : Decomposes [] [] []
  | cons {segment : Segment} {segments : List Segment} {value : Option (List Char)}
      {word rest : List Char} {found : List (String × String)} (first : segment.Yields value word)
      (others : Decomposes segments rest found) :
      Decomposes (segment :: segments) (word ++ rest) (segment.bound value ++ found)

/-- The literals of a rule stand in every text that decomposes along it. -/
theorem Decomposes.mem_of_literal {segments : List Segment} {path : List Char}
    {found : List (String × String)} (h : Decomposes segments path found) {text : String}
    (hmem : .literal text ∈ segments) : ∀ c ∈ text.toList, c ∈ path := by
  intro c hc
  induction h with
  | nil => cases hmem
  | cons hfirst hothers ih =>
      rcases List.mem_cons.mp hmem with rfl | hmem
      · cases hfirst
        exact List.mem_append_left _ hc
      · exact List.mem_append_right _ (ih hmem)

end Rule

end Waymark
