import Waymark.Table
import Waymark.Proofs.Pattern.Matches
import Waymark.Proofs.Route.Validation

/-! # The bodies of a rule as matches of a pattern

What stands between an opening brace and a closing one, with no brace in between, can be told by
a pattern: its matches, one behind the other, are what the scan for braces finds. On a rule that is
cut into pieces they are the bodies of its tokens, so the placeholders of a compiled route stand
for them one by one.
-/

namespace Waymark.Rule

open Pattern

/-! ## The pattern -/

/-- A pattern for text in braces, with a group for the text. -/
def bracedText : String := "\\\x7b(?P<_>[^\x7b\x7d]*)\\\x7d"

/-- All characters but braces. -/
def notBrace : CharSet := .compl (.union (.only '\x7b') (.only '\x7d'))

/-- The pattern that the text spells. -/
def braced : Expr :=
  .cat (.one (.only '\x7b'))
    (.cat (.capture "_" (.repeated (.one notBrace) 0 none true)) (.one (.only '\x7d')))

theorem compile_bracedText : Regex.compile bracedText = .ok ⟨bracedText, braced⟩ := by
  have hast : Ast.ofText bracedText.toList = .ok (.cat (.literal '\x7b' false)
      (.cat (.group (.capture (some "_")) (.repeated (.bracketed true
        (.union (.literal '\x7b' false) (.literal '\x7d' false))) 0 none true))
        (.literal '\x7d' false))) := by
    decide +kernel
  exact bind_eq_ok.mpr ⟨_, hast, bind_eq_ok.mpr ⟨(braced, .initial), rfl, rfl⟩⟩

variable {text body after rest : List Char} {cursor : Cursor} {t : Thread} {index : Nat}
  {before : Option Char} {last : Option Nat}

theorem contains_notBrace (c : Char) : notBrace.contains c = !isBrace c := rfl

/-- A way through the pattern is an opening brace, text without braces and a closing brace. -/
theorem braced_of_steps (hon : cursor.On text) (h : Expr.Steps braced ⟨cursor, []⟩ t) :
    ∃ body after, Braceless body ∧ cursor.rest = '\x7b' :: (body ++ '\x7d' :: after) ∧
      t.cursor.rest = after ∧ t.group? "_" = some body := by
  obtain ⟨s, hopen, h⟩ := Expr.steps_cat_iff.mp h
  obtain ⟨u, hbody, hclose⟩ := Expr.steps_cat_iff.mp h
  obtain ⟨opening, hopening, hrest⟩ := hopen.consumes rfl
  obtain ⟨body, hlanguage, hinner, hgroup⟩ := hbody.captured rfl (hopen.on hon)
  obtain ⟨closing, hclosing, hafter⟩ := hclose.consumes rfl
  obtain ⟨-, hbraceless⟩ := Expr.mem_language_repeated_iff.mp hlanguage
  rw [Expr.mem_language_only.mp hopening, hinner, hafter,
    Expr.mem_language_only.mp hclosing] at hrest
  refine ⟨body, t.cursor.rest, fun c hc => ?_, hrest, rfl,
    (hclose.group?_eq (by decide)).trans hgroup⟩
  simpa [contains_notBrace] using hbraceless c hc

theorem mem_language_braced (h : Braceless body) :
    '\x7b' :: (body ++ ['\x7d']) ∈ braced.language := by
  have hbody : body ∈ (Expr.repeated (.one notBrace) 0 none true).language :=
    Expr.mem_language_repeated_iff.mpr ⟨Nat.zero_le _, h.all⟩
  have hclose : body ++ ['\x7d'] ∈ (Expr.cat (.capture "_" (.repeated (.one notBrace) 0 none true))
      (.one (.only '\x7d'))).language :=
    Language.append_mem_mul hbody ⟨'\x7d', rfl, rfl⟩
  exact Language.append_mem_mul (a := ['\x7b']) ⟨'\x7b', rfl, rfl⟩ hclose

/-- Text in braces matches as a whole. -/
theorem exists_matchAt?_braced (hbody : Braceless body)
    (hon : Cursor.On text ⟨index, before, '\x7b' :: ((body ++ ['\x7d']) ++ after)⟩) :
    ∃ t, braced.matchAt? ⟨index, before, '\x7b' :: ((body ++ ['\x7d']) ++ after)⟩ = some t ∧
      t.group? "_" = some body ∧ t.index = index + 1 + (body ++ ['\x7d']).length := by
  obtain ⟨u, hu, -⟩ := @Expr.exists_steps _
    ⟨⟨index, before, '\x7b' :: ((body ++ ['\x7d']) ++ after)⟩, []⟩ _ after
    (mem_language_braced hbody) rfl
  obtain ⟨t, ht⟩ := Expr.exists_matchAt? hon hu
  have hsteps := Expr.steps_of_matchAt? hon ht
  obtain ⟨body', after', hbody', hrest, hafter, hgroup⟩ := braced_of_steps hon hsteps
  obtain ⟨-, hrest⟩ := List.cons.inj hrest
  rw [List.append_assoc, List.singleton_append] at hrest
  have hclose : isBrace '\x7d' = true := rfl
  obtain rfl : body' = body := by
    rw [← beforeBrace_append hbody' hclose, ← hrest, beforeBrace_append hbody hclose]
  obtain ⟨-, rfl⟩ := List.cons.inj (List.append_cancel_left hrest)
  refine ⟨t, ht, hgroup, ?_⟩
  have hlength := hon.index_add_length
  have hlength' := (hsteps.on hon).index_add_length
  rw [hafter] at hlength'
  dsimp only at hlength
  rw [List.length_cons, List.length_append] at hlength
  change t.cursor.index = _
  omega

/-- Elsewhere nothing matches. -/
theorem matchAt?_braced_eq_none (hon : cursor.On text)
    (h : ∀ body after, Braceless body → cursor.rest ≠ '\x7b' :: (body ++ '\x7d' :: after)) :
    braced.matchAt? cursor = none := by
  cases hmatch : braced.matchAt? cursor with
  | none => rfl
  | some t =>
      have hsteps := Expr.steps_of_matchAt? hon hmatch
      obtain ⟨body, after, hbody, hrest, -⟩ := braced_of_steps hon hsteps
      exact absurd hrest (h body after hbody)

/-! ## The scan and the matches -/

/-- From any position on, the matches of the pattern are the bodies that the scan finds. -/
theorem filterMap_matchesAt_braced (hon : Cursor.On text ⟨index, before, rest⟩)
    (hlast : ∀ i, last = some i → i ≤ index) :
    (braced.matchesAt last (Cursor.positions index before rest)).filterMap (·.group? "_") =
      bracedBodies rest := by
  fun_induction bracedBodies rest generalizing index before last with
  | case1 =>
      have hnone := matchAt?_braced_eq_none hon nofun
      rw [Cursor.positions, Expr.matchesAt, hnone]
      split <;> rfl
  | case2 rest after hfrom =>
      rename_i ih
      have hbody := braceless_beforeBrace rest
      have hrest : rest = (beforeBrace rest ++ ['\x7d']) ++ after := by
        rw [List.append_assoc, List.singleton_append]
        exact eq_append_of_fromBrace hfrom
      rw [hrest] at hon
      obtain ⟨t, ht, hgroup, hindex⟩ := exists_matchAt?_braced hbody hon
      have hbehind := hon.next.append
      rw [← hindex] at hbehind
      have hgoon := Expr.matchesAt_of_some hlast ht hindex
      rw [← hrest] at hgoon
      rw [hgoon, List.filterMap_cons, hgroup, ih hbehind (by simp)]
  | case3 rest hnot =>
      rename_i ih
      rw [Expr.matchesAt_of_none, ih hon.next]
      · intro i hi
        exact (hlast i hi).trans (Nat.le_succ index)
      · refine matchAt?_braced_eq_none hon fun body after hbody heq => hnot after ?_
        obtain ⟨-, rfl⟩ := List.cons.inj heq
        exact fromBrace_append hbody rfl
  | case4 c rest hc =>
      rename_i ih
      rw [Expr.matchesAt_of_none, ih hon.next]
      · intro i hi
        exact (hlast i hi).trans (Nat.le_succ index)
      · exact matchAt?_braced_eq_none hon fun body after _ heq => hc (List.cons.inj heq).1

/-- What the matches of the pattern hold in a rule are the bodies that the scan finds. -/
theorem captureAll_braced (source rule : String) :
    (Regex.mk source braced).captureAll "_" rule = bracedBodies rule.toList :=
  filterMap_matchesAt_braced (Cursor.start_on rule.toList) nofun

/-! ## The placeholders of a compiled route -/

/-- Tokens give placeholders of keywords that have none yet, and no keyword gets two. -/
theorem nodup_of_readPieces {template : Template} {used : List String} {pieces : List Piece}
    {segments : List Segment} (h : readPieces template used pieces = .ok segments) :
    ((Segment.placeholders segments).map (·.keyword)).Nodup ∧
      ∀ p ∈ Segment.placeholders segments, p.keyword ∉ used := by
  induction pieces generalizing used segments with
  | nil =>
      cases h
      exact ⟨.nil, nofun⟩
  | cons piece pieces ih =>
      cases piece with
      | literal words =>
          obtain ⟨others, hothers, h⟩ := bind_eq_ok.mp h
          cases h
          have hrest := ih hothers
          exact hrest
      | token body position =>
          obtain ⟨p, -, h⟩ := bind_eq_ok.mp h
          dsimp only at h
          split at h
          next => cases h
          next hused =>
            obtain ⟨others, hothers, h⟩ := bind_eq_ok.mp h
            cases h
            obtain ⟨hnodup, hothers⟩ := ih hothers
            have hp : p.keyword ∉ (Segment.placeholders others).map (·.keyword) := by
              intro hmem
              obtain ⟨q, hq, heq⟩ := List.mem_map.mp hmem
              exact hothers q hq (by simp [heq])
            refine ⟨List.nodup_cons.mpr ⟨hp, hnodup⟩, List.forall_mem_cons.mpr ⟨?_, ?_⟩⟩
            · simpa using hused
            · exact fun q hq hmem => hothers q hq (List.mem_cons_of_mem _ hmem)

theorem nodup_of_segments {template : Template} {segments : List Segment}
    (h : Rule.segments template = .ok segments) :
    ((Segment.placeholders segments).map (·.keyword)).Nodup := by
  unfold Rule.segments at h
  split at h
  next => cases h
  next => exact (nodup_of_readPieces h).1

/-- The placeholders of a route stand for some bodies: the bodies give them in order, no keyword has
two of them, and the keywords are mentioned in the rule, also to a table with the route. -/
structure StandsFor (route : Route) (bodies : List (List Char)) : Prop where
  gives : List.Forall₂ (Gives route.template.keywords) bodies route.placeholders
  nodup : (route.placeholders.map (·.keyword)).Nodup
  mentions : ∀ p ∈ route.placeholders, mentions route.template.rule p.keyword = true
  hasKeyword : ∀ (table : Table) scope routeId handle,
    table.get? scope routeId = some handle → handle.route = route →
      ∀ p ∈ route.placeholders, table.hasKeyword scope routeId p.keyword = true

theorem standsFor_of_compile {template : Template} {route : Route}
    (h : Route.compile template = .ok route) :
    StandsFor route (bracedBodies template.rule.toList) := by
  obtain ⟨rfl, hsegments, -⟩ := Route.compile_eq_ok h
  have hgives := gives_of_segments hsegments
  have hmentions : ∀ p ∈ route.placeholders, mentions route.template.rule p.keyword = true := by
    intro p hp
    obtain ⟨body, hbody, hbody'⟩ := exists_of_forall₂ hgives.flip hp
    exact Template.mentions_iff.mpr ⟨body, hbody, Gives.mem hbody'⟩
  refine ⟨hgives, nodup_of_segments hsegments, hmentions, ?_⟩
  rintro table scope routeId handle hget rfl p hp
  rw [Table.hasKeyword, hget]
  exact hmentions p hp

/-- The compiler's cut of a rule and the matches of the pattern find the same bodies. So the
placeholders of a compiled route stand for the matches, and their keywords are mentioned. -/
theorem scanners_agree : ∃ regex, Regex.compile bracedText = .ok regex ∧
    (∀ rule keyword, mentions rule keyword =
      (regex.captureAll "_" rule).any fun body =>
        (Text.splitAll ':' body).contains keyword.toList) ∧
    (∀ rule pieces, Piece.ofRule 0 rule.toList = .ok pieces →
      Piece.bodies pieces = regex.captureAll "_" rule) ∧
    ∀ template route, Route.compile template = .ok route →
      route.template = template ∧ StandsFor route (regex.captureAll "_" template.rule) := by
  refine ⟨_, compile_bracedText, ?_, ?_, ?_⟩
  · intro rule keyword
    rw [captureAll_braced]
    rfl
  · intro rule pieces h
    rw [captureAll_braced, Piece.bodies_eq h]
  · intro template route h
    rw [captureAll_braced]
    exact ⟨(Route.compile_eq_ok h).1, standsFor_of_compile h⟩

open Families in
/-- The keyword of the second token of the family of modules stands behind a colon. -/
theorem scanners_agree_moduleFamily : ∃ regex route,
    Regex.compile bracedText = .ok regex ∧ Route.compile moduleFamily = .ok route ∧
      StandsFor route (regex.captureAll "_" moduleFamily.rule) ∧
      (Table.empty.insert ⟨1, 1⟩ ⟨route, none⟩).hasKeyword ⟨1, 1⟩ "module" "controller" = true := by
  obtain ⟨regex, hregex, -, -, hcompiled⟩ := scanners_agree
  obtain ⟨_, hcompile⟩ := compile_moduleFamily
  obtain ⟨-, hstands⟩ := hcompiled _ _ hcompile
  exact ⟨regex, _, hregex, hcompile, hstands, hstands.hasKeyword _ ⟨1, 1⟩ "module" _ rfl rfl
    (controllerPlaceholder "/") (by simp [Route.placeholders, Segment.placeholders,
      Segment.placeholder?])⟩

end Waymark.Rule
