import Waymark.Rule.Piece

/-! # Which keywords a rule mentions

A check that also works on rules that are not well braced: a body is what stands between an
opening brace and the next brace, if that is a closing one. A rule mentions a keyword if one of
the parts of a body between colons is its name.
-/

namespace Waymark.Rule

/-- The text between braces, wherever an opening brace is directly followed by a closing one. -/
def bracedBodies : List Char → List (List Char)
  | [] => []
  | c :: rest =>
      if c = '\x7b' then
        match _hrest : fromBrace rest with
        | '\x7d' :: after => beforeBrace rest :: bracedBodies after
        | _ => bracedBodies rest
      else bracedBodies rest
termination_by text => text.length
decreasing_by
  · have h := length_fromBrace_le rest
    rw [_hrest] at h
    simp only [List.length_cons] at h ⊢
    omega
  · simp
  · simp

/-- Whether a rule has a placeholder for a keyword, whatever its affixes. -/
def mentions (rule keyword : String) : Bool :=
  (bracedBodies rule.toList).any fun body => (Text.splitAll ':' body).contains keyword.toList

end Waymark.Rule
