import Waymark.Build
import Waymark.Proofs.Route.Matching

/-! # Filling in a rule

The text of a path that is built from values is itself a decomposition along the rule, with the
values at the places of their placeholders. When the fragments of the keywords have no groups of
their own, a matcher captures nothing but the values of a decomposition.
-/

namespace Waymark

open Pattern Rule

namespace Keyword

/-- A fragment is a pattern by itself, made of characters, sets, unnamed groups, repetitions,
sequences and alternatives. -/
structure Standalone (k : Keyword) : Prop where
  reads : ∃ ast, Ast.ofText k.regexp.toList = .ok ast ∧ ast.isPlain = true ∧ ast.groupNames = []
  compiles : ∃ regex, Regex.compile k.regexp = .ok regex

theorem Standalone.selfContained {k : Keyword} (h : k.Standalone)
    (hparam : ∀ param, k.param = some param → '>' ∉ param.toList) : k.SelfContained := by
  obtain ⟨ast, hast, hplain, -⟩ := h.reads
  exact ⟨⟨ast, hast, hplain⟩, h.compiles, hparam⟩

theorem Standalone.groupNames_tree {k : Keyword} (h : k.Standalone) : k.tree.groupNames = [] := by
  obtain ⟨ast, hast, -, hnames⟩ := h.reads
  rw [tree, hast]
  exact hnames

end Keyword

/-! ## Groups -/

theorem Pattern.Ast.groupNames_append (item rest : Ast) :
    (item.append rest).groupNames = item.groupNames ++ rest.groupNames := by
  cases rest <;> simp [append, groupNames]

theorem Pattern.Ast.groupNames_sequence (items : List Ast) :
    (Ast.sequence items).groupNames = items.flatMap Ast.groupNames := by
  induction items with
  | nil => rfl
  | cons item items ih =>
      rw [List.flatMap_cons, ← ih]
      exact groupNames_append item (Ast.sequence items)

namespace Rule.Segment

theorem flatMap_groupNames_literal (text : List Char) :
    (text.map fun c => Ast.literal c false).flatMap Ast.groupNames = [] := by
  rw [List.flatMap_eq_nil_iff]
  intro item hitem
  obtain ⟨c, -, rfl⟩ := List.mem_map.mp hitem
  rfl

theorem groupNames_group {k : Keyword} (h : k.tree.groupNames = []) :
    (Ast.group k.groupKind k.tree).groupNames = k.param.toList := by
  unfold Keyword.groupKind
  cases k.param with
  | none => exact h
  | some param => exact congrArg (param :: ·) h

/-- The only group of a segment is the one for the parameter that it binds. -/
theorem groupNames_items {segment : Segment}
    (h : ∀ p, segment = placeholder p → p.spec.tree.groupNames = []) :
    segment.items.flatMap Ast.groupNames = segment.param?.toList := by
  cases segment with
  | literal text => exact flatMap_groupNames_literal text.toList
  | placeholder p =>
      have hgroup := groupNames_group (h p rfl)
      unfold items
      dsimp only
      split
      next =>
        rw [List.flatMap_singleton, Ast.groupNames, Ast.groupNames, Ast.groupNames_sequence,
          List.flatMap_append, List.flatMap_cons, flatMap_groupNames_literal,
          flatMap_groupNames_literal, hgroup, List.nil_append, List.append_nil]
        · rfl
        · intro _ hkind
          cases hkind
      next =>
        rw [List.flatMap_singleton, hgroup]
        rfl

/-- Without groups in the fragments, the groups of a rule are those for the parameters. -/
theorem flatMap_groupNames {segments : List Segment}
    (h : ∀ p ∈ placeholders segments, p.spec.tree.groupNames = []) :
    (segments.flatMap items).flatMap Ast.groupNames = params segments := by
  have hitems : segments.flatMap (fun segment => segment.items.flatMap Ast.groupNames) =
      segments.flatMap fun segment => segment.param?.toList := by
    refine List.flatMap_congr fun segment hsegment => groupNames_items ?_
    rintro p rfl
    exact h p (List.mem_filterMap.mpr ⟨_, hsegment, rfl⟩)
  rw [List.flatMap_assoc, hitems, ← List.filterMap_eq_flatMap_toList]
  rfl

end Rule.Segment

namespace Route

variable {r : Route} {template : Template}

theorem groupNames_eq (h : compile template = .ok r)
    (hsegments : ∀ segment ∈ r.segments, segment.SelfContained)
    (hnames : ∀ p ∈ r.placeholders, p.spec.tree.groupNames = []) :
    r.regex.expr.groupNames = Segment.params r.segments := by
  obtain ⟨-, -, hregex⟩ := compile_eq_ok h
  obtain ⟨ast, behind, hast, hexpr⟩ := Regex.compile_eq_ok hregex
  rw [String.toList_ofList] at hast
  rw [Expr.groupNames_elaborate hexpr, ofText_patternText hsegments hast, Ast.groupNames_sequence,
    List.flatMap_append, List.flatMap_append, Segment.flatMap_groupNames hnames]
  exact List.append_nil _

/-- Without groups in the fragments a route captures exactly the values of a decomposition. -/
theorem decomposes_of_captures_eq (h : compile template = .ok r)
    (hsegments : ∀ segment ∈ r.segments, segment.SelfContained)
    (hnames : ∀ p ∈ r.placeholders, p.spec.tree.groupNames = []) {path : String}
    {found : List (String × String)} (hfound : r.captures path = some found) :
    ∃ rest, path.toList = '/' :: rest ∧ Decomposes r.segments rest found := by
  obtain ⟨rest, hpath, hdecomposes⟩ := decomposes_of_captures h hsegments hfound
  -- every group is one for a parameter, so dropping the others drops nothing
  have hall : found.filter (fun entry => (Segment.params r.segments).contains entry.1) = found := by
    rw [List.filter_eq_self]
    intro entry hentry
    obtain ⟨t, -, rfl⟩ := Option.map_eq_some_iff.mp hfound
    obtain ⟨name, hname, hvalue⟩ := List.mem_filterMap.mp hentry
    obtain ⟨value, -, rfl⟩ := Option.map_eq_some_iff.mp hvalue
    rw [groupNames_eq h hsegments hnames] at hname
    exact List.contains_iff_mem.mpr hname
  rw [hall] at hdecomposes
  exact ⟨rest, hpath, hdecomposes⟩

end Route

/-! ## Values -/

namespace Rule

/-- The parameters supply what a placeholder needs: a value for a bound keyword, values that the
keyword admits, and no value only where none is needed. -/
structure Placeholder.Filled (p : Placeholder) (params : Params) : Prop where
  required : p.required = true → ∃ value, params.get? p.keyword = some value ∧ value ≠ ""
  present : ∀ value, params.get? p.keyword = some value → value ≠ "" →
    value.toList ∈ p.spec.language
  absent : p.hasAffix = false → (params.get? p.keyword).getD "" = "" → [] ∈ p.spec.language

theorem Placeholder.filled_of_mem {p : Placeholder} {params : Params} {value : String}
    {regex : Regex} (hvalue : params.get? p.keyword = some value) (hne : value ≠ "")
    (hcompile : Regex.compile p.spec.regexp = .ok regex)
    (hmem : value.toList ∈ regex.expr.language) : p.Filled params where
  required _ := ⟨value, hvalue, hne⟩
  present := by
    intro other hother _
    rw [hvalue] at hother
    cases hother
    exact Keyword.mem_language hcompile hmem
  absent := by
    intro _ hblank
    rw [hvalue] at hblank
    exact absurd hblank hne

namespace Placeholder

/-- The placeholder requires a value, and the parameters have no entry for its keyword. -/
def Missing (p : Placeholder) (params : Params) : Prop :=
  p.required = true ∧ p.keyword ∉ params.keys

instance (p : Placeholder) (params : Params) : Decidable (p.Missing params) :=
  inferInstanceAs (Decidable (p.required = true ∧ p.keyword ∉ params.keys))

/-- The first of some placeholders whose value is missing. -/
def IsFirstMissing (p : Placeholder) (params : Params) (placeholders : List Placeholder) : Prop :=
  p.Missing params ∧ ∃ before after, placeholders = before ++ p :: after ∧
    ∀ other ∈ before, ¬ other.Missing params

variable {p : Placeholder} {params : Params}

theorem missing_iff : (p.required && !params.contains p.keyword) = true ↔ p.Missing params := by
  rw [Bool.and_eq_true, Bool.not_eq_true', ← Bool.not_eq_true, OrderedMap.contains_iff]
  rfl

theorem Filled.not_missing (h : p.Filled params) : ¬ p.Missing params := by
  rintro ⟨hrequired, hmissing⟩
  obtain ⟨value, hvalue, -⟩ := h.required hrequired
  exact hmissing (OrderedMap.contains_iff.mp (Option.isSome_iff_exists.mpr ⟨value, hvalue⟩))

end Placeholder

/-- What a segment binds under some parameters. -/
def Segment.supplied (params : Params) (segment : Segment) : List (String × String) :=
  match segment with
  | .literal _ => []
  | .placeholder p =>
      match p.spec.param, params.get? p.keyword with
      | some param, some value => [(param, value)]
      | _, _ => []

/-- What a rule binds under some parameters. -/
def supplied (segments : List Segment) (params : Params) : List (String × String) :=
  segments.flatMap (Segment.supplied params)

/-- A keyword without a value is not bound. -/
theorem Placeholder.Filled.param_eq_none {p : Placeholder} {params : Params} (h : p.Filled params)
    (hblank : (params.get? p.keyword).getD "" = "") : p.spec.param = none := by
  by_contra hparam
  obtain ⟨value, hvalue, hne⟩ := h.required (Option.isSome_iff_ne_none.mpr hparam)
  rw [hvalue] at hblank
  exact hne hblank

theorem Segment.yields_of_blank {p : Placeholder} {params : Params} (h : p.Filled params)
    (hblank : (params.get? p.keyword).getD "" = "") :
    ∃ value, (placeholder p).Yields value [] ∧
      (placeholder p).bound value = (placeholder p).supplied params := by
  -- a bound keyword is required, so a blank value has no parameter to go to
  have hparam := h.param_eq_none hblank
  have hbound : ∀ value, (placeholder p).bound value = (placeholder p).supplied params := by
    intro value
    simp [bound, param?, supplied, hparam]
  by_cases haffix : p.hasAffix = true
  · exact ⟨none, .absent haffix, hbound none⟩
  · obtain ⟨hprepend, happend⟩ : p.prepend = "" ∧ p.append = "" := by
      simpa [Placeholder.hasAffix] using haffix
    have hyields := Yields.present (h.absent (by simpa using haffix) hblank)
    rw [hprepend, happend] at hyields
    exact ⟨some [], hyields, hbound _⟩

theorem Segment.yields_segmentText {segment : Segment} {params : Params}
    (h : ∀ p, segment = placeholder p → p.Filled params) :
    ∃ value, segment.Yields value (Build.segmentText params segment).toList ∧
      segment.bound value = segment.supplied params := by
  cases segment with
  | literal text => exact ⟨none, .literal text, rfl⟩
  | placeholder p =>
      have hp := h p rfl
      unfold Build.segmentText
      dsimp only
      cases hget : params.get? p.keyword with
      | none => exact yields_of_blank hp (by rw [hget]; rfl)
      | some value =>
          dsimp only
          by_cases hvalue : value = ""
          · rw [if_pos hvalue]
            exact yields_of_blank hp (by rw [hget, hvalue]; rfl)
          · rw [if_neg hvalue, String.toList_append, String.toList_append]
            refine ⟨some value.toList, .present (hp.present value hget hvalue), ?_⟩
            unfold bound supplied param?
            dsimp only
            rw [hget]
            cases p.spec.param with
            | none => rfl
            | some param => simp

/-- A path that is built decomposes into the values that it is built from. -/
theorem decomposes_pathText {segments : List Segment} {params : Params}
    (h : ∀ p ∈ Segment.placeholders segments, p.Filled params) :
    Decomposes segments (Build.pathText segments params).toList (supplied segments params) := by
  unfold Build.pathText
  rw [String.toList_join, List.flatMap_map]
  induction segments with
  | nil => exact .nil
  | cons segment segments ih =>
      obtain ⟨value, hyields, hbound⟩ := @Segment.yields_segmentText segment params fun p hp =>
        h p (List.mem_filterMap.mpr ⟨segment, List.mem_cons_self, hp ▸ rfl⟩)
      have hothers := ih fun p hp => h p (by
        obtain ⟨other, hother, hp⟩ := List.mem_filterMap.mp hp
        exact List.mem_filterMap.mpr ⟨other, List.mem_cons_of_mem _ hother, hp⟩)
      rw [List.flatMap_cons, supplied, List.flatMap_cons, ← hbound]
      exact .cons hyields hothers

end Rule

/-! ## What a rule misses -/

namespace Build

variable {r : Route} {params : Params}

theorem missingKeyword?_eq_some {keyword : String} : missingKeyword? r params = some keyword ↔
    ∃ p : Placeholder, p.IsFirstMissing params r.placeholders ∧ p.keyword = keyword := by
  unfold missingKeyword?
  rw [Option.map_eq_some_iff]
  apply exists_congr
  intro p
  apply and_congr_left
  intro _
  rw [List.find?_eq_some_iff_append, Placeholder.missing_iff]
  unfold Placeholder.IsFirstMissing
  simp only [Bool.not_eq_true', ← Bool.not_eq_true, Placeholder.missing_iff]

theorem missingKeyword?_eq_none_iff : missingKeyword? r params = none ↔
    ∀ p ∈ r.placeholders, ¬ p.Missing params := by
  unfold missingKeyword?
  simp only [Option.map_eq_none_iff, List.find?_eq_none, Placeholder.missing_iff]

end Build

end Waymark
