import Waymark.Route
import Waymark.Proofs.Outcome
import Waymark.Proofs.Rule.Piece

/-! # What a compiled route is made of -/

namespace Waymark

open Pattern

/-- A text that compiles reads as a tree, and the pattern is what the tree means. -/
theorem Pattern.Regex.compile_eq_ok {source : String} {regex : Regex}
    (h : Regex.compile source = .ok regex) :
    ∃ ast behind, Ast.ofText source.toList = .ok ast ∧
      Expr.elaborate .initial ast = .ok (regex.expr, behind) := by
  obtain ⟨ast, hast, h⟩ := bind_eq_ok.mp h
  obtain ⟨⟨expr, behind⟩, hexpr, h⟩ := bind_eq_ok.mp h
  dsimp only at h
  split at h
  next => cases h
  next =>
    cases h
    exact ⟨ast, behind, hast, hexpr⟩

namespace Route

variable {r : Route} {t : Template}

theorem compile_eq_ok (h : compile t = .ok r) :
    r.template = t ∧ Rule.segments t = .ok r.segments ∧
      Regex.compile (String.ofList (patternText r.segments)) = .ok r.regex := by
  obtain ⟨segments, hsegments, h⟩ := bind_eq_ok.mp h
  split at h
  next regex hregex =>
    cases h
    exact ⟨rfl, hsegments, hregex⟩
  next => cases h

theorem compile_of_reads {segments : List Rule.Segment} {ast : Ast} {expr : Expr} {behind : Flags}
    (hsegments : Rule.segments t = .ok segments)
    (hast : Ast.ofText (patternText segments) = .ok ast)
    (hexpr : Expr.elaborate .initial ast = .ok (expr, behind)) (hsize : expr.size ≤ Expr.maxSize) :
    compile t = .ok ⟨t, ⟨String.ofList (patternText segments), expr⟩, segments⟩ := by
  have hregex : Regex.compile (String.ofList (patternText segments)) =
      .ok ⟨String.ofList (patternText segments), expr⟩ := by
    unfold Regex.compile
    rw [String.toList_ofList]
    refine bind_eq_ok.mpr ⟨ast, hast, bind_eq_ok.mpr ⟨_, hexpr, ?_⟩⟩
    dsimp only
    rw [if_neg (Nat.not_lt.mpr hsize)]
    rfl
  refine bind_eq_ok.mpr ⟨segments, hsegments, ?_⟩
  rw [hregex]
  rfl

end Route

end Waymark
