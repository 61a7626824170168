import Waymark.Build
import Waymark.Proofs.Request.Normalize
import Waymark.Proofs.Route.Matching
import Waymark.Proofs.Rule.Mention

/-! # Rules without placeholders

A template without keywords compiles only if its rule holds no braces. Then the whole rule is
literal text: of all paths it accepts itself alone, behind a slash, and it is also the path that is
built from it.
-/

namespace Waymark

namespace Rule

variable {text : List Char} {t : Template} {segments : List Segment}

/-- A rule without tokens is one piece of text. -/
theorem Piece.eq_ofText_of_bodies {offset : Nat} {pieces : List Piece}
    (h : ofRule offset text = .ok pieces) (hbodies : bodies pieces = []) :
    pieces = ofText text := by
  fun_induction ofRule offset text generalizing pieces with
  | case1 offset text hfrom =>
      cases h
      have happend := beforeBrace_append_fromBrace text
      rw [hfrom, List.append_nil] at happend
      rw [happend]
  | case2 => cases h
  | case3 offset text brace rest hfrom position hbrace after hrest body =>
      obtain ⟨behind, -, h⟩ := bind_eq_ok.mp h
      cases h
      rw [bodies_ofText] at hbodies
      cases hbodies
  | case4 => cases h

/-- Without keywords there is nothing that a token could stand for. -/
theorem bracedBodies_of_noKeywords (hkeywords : t.keywords = .empty)
    (h : Rule.segments t = .ok segments) : bracedBodies t.rule.toList = [] := by
  have hgives := gives_of_segments h
  cases hbodies : bracedBodies t.rule.toList with
  | nil => rfl
  | cons body bodies =>
      rw [hbodies] at hgives
      obtain ⟨p, -, ⟨-, -, -, hget, -⟩, -⟩ := List.forall₂_cons_left_iff.mp hgives
      rw [hkeywords] at hget
      cases hget

theorem segments_of_noKeywords (hkeywords : t.keywords = .empty)
    (h : Rule.segments t = .ok segments) :
    segments = if t.rule = "" then [] else [.literal t.rule] := by
  have hnone := bracedBodies_of_noKeywords hkeywords h
  unfold Rule.segments at h
  split at h
  next => cases h
  next pieces hpieces =>
    rw [← Piece.bodies_eq hpieces] at hnone
    rw [Piece.eq_ofText_of_bodies hpieces hnone] at h
    unfold Piece.ofText at h
    split at h
    next hempty =>
      cases h
      rw [if_pos (String.toList_eq_nil_iff.mp hempty)]
    next hne =>
      cases h
      rw [if_neg fun hempty => hne (String.toList_eq_nil_iff.mpr hempty), String.ofList_toList]

/-- A text decomposes along a literal rule if it is the rule. -/
theorem decomposes_literal_iff (text : String) {rest : List Char} :
    (∃ found, Decomposes (if text = "" then [] else [.literal text]) rest found) ↔
      rest = text.toList := by
  split
  next hempty =>
    subst hempty
    constructor
    · rintro ⟨found, ⟨⟩⟩
      rfl
    · rintro rfl
      exact ⟨[], .nil⟩
  next =>
    constructor
    · rintro ⟨found, hdecomposes⟩
      cases hdecomposes with
      | cons hfirst hothers =>
          cases hfirst
          cases hothers
          exact List.append_nil _
    · rintro rfl
      have hdecomposes := Decomposes.cons (.literal text) .nil
      rw [List.append_nil] at hdecomposes
      exact ⟨_, hdecomposes⟩

end Rule

namespace Route

open Rule

variable {t : Template} {r : Route}

theorem segments_of_noKeywords (hkeywords : t.keywords = .empty) (h : compile t = .ok r) :
    r.segments = if t.rule = "" then [] else [.literal t.rule] :=
  Rule.segments_of_noKeywords hkeywords (compile_eq_ok h).2.1

theorem placeholders_of_noKeywords (hkeywords : t.keywords = .empty) (h : compile t = .ok r) :
    r.placeholders = [] := by
  unfold placeholders
  rw [segments_of_noKeywords hkeywords h]
  split <;> rfl

/-- Without keywords a rule accepts itself behind a slash, and nothing else. -/
theorem isSome_captures_of_noKeywords (hkeywords : t.keywords = .empty) (h : compile t = .ok r)
    (path : String) : (r.captures path).isSome = true ↔ path = "/" ++ t.rule := by
  have hcontained : ∀ segment ∈ r.segments, segment.SelfContained :=
    selfContained_of_placeholders (by rw [placeholders_of_noKeywords hkeywords h]; nofun)
  rw [isSome_captures_iff h hcontained, ← String.toList_inj, Request.toList_slash,
    segments_of_noKeywords hkeywords h]
  constructor
  · rintro ⟨rest, found, hpath, hdecomposes⟩
    rw [hpath, (decomposes_literal_iff t.rule).mp ⟨found, hdecomposes⟩]
  · intro hpath
    obtain ⟨found, hdecomposes⟩ := (decomposes_literal_iff t.rule).mpr rfl
    exact ⟨_, found, hpath, hdecomposes⟩

end Route

/-- The path of a rule without keywords is the rule, whatever the parameters. -/
theorem Build.pathText_of_noKeywords {t : Template} {r : Route} (hkeywords : t.keywords = .empty)
    (h : Route.compile t = .ok r) (params : Params) : pathText r.segments params = t.rule := by
  rw [Route.segments_of_noKeywords hkeywords h]
  split
  next hempty => exact hempty.symm
  next => simp [pathText, segmentText, String.join]

end Waymark
