import Waymark.Proofs.Build.Refusal
import Waymark.Proofs.ReadBack

/-! # What a friendly URL shows

A friendly URL shows two things of its parameters: the values that the placeholders of the rule
stand for, and the parameters that are no keywords of the family. So parameters that agree on both
have one URL. An empty value counts as none, keywords without a placeholder are never shown, and
of the keywords it does not matter in which order they come.
-/

namespace Waymark

open Rule

namespace Build

/-! ## What is shown -/

/-- The value that parameters have for a keyword. An empty one is as good as none. -/
def shown? (params : Params) (keyword : String) : Option String :=
  (params.get? keyword).filter (· ≠ "")

/-- The parameters that are no keywords of the family of a route, in order. -/
def others (r : Route) (params : Params) : List (String × String) :=
  params.entries.filter fun pair => pair.1 ∉ r.template.keywords.keys

/-- Parameters that agree on what is shown: on the values for placeholders, and on what is no
keyword. -/
structure ShowAlike (r : Route) (params params' : Params) : Prop where
  values : ∀ p ∈ r.placeholders, shown? params p.keyword = shown? params' p.keyword
  others : others r params = others r params'

/-- Parameters have all values that the rule of a route requires. -/
def Supplies (params : Params) (r : Route) : Prop := ∀ p ∈ r.placeholders, ¬ p.Missing params

variable {r : Route} {params params' : Params} {keyword : String}

/-- A placeholder stands for its value between its affixes, or for nothing. -/
theorem segmentText_placeholder (p : Placeholder) : segmentText params (.placeholder p) =
    (shown? params p.keyword).elim "" fun value => p.prepend ++ value ++ p.append := by
  unfold segmentText shown?
  dsimp only
  cases params.get? p.keyword with
  | none => rfl
  | some value =>
      by_cases hempty : value = ""
      · simp [hempty, Option.filter]
      · simp [hempty, Option.filter]

theorem pathText_congr {segments : List Segment}
    (h : ∀ p ∈ Segment.placeholders segments, shown? params p.keyword = shown? params' p.keyword) :
    pathText segments params = pathText segments params' := by
  unfold pathText
  congr 1
  apply List.map_congr_left
  intro segment hsegment
  cases segment with
  | literal text => rfl
  | placeholder p =>
      have hp : p ∈ Segment.placeholders segments :=
        List.mem_filterMap.mpr ⟨.placeholder p, hsegment, rfl⟩
      rw [segmentText_placeholder, segmentText_placeholder, h p hp]

/-- A friendly URL is the path, and behind it the query of what is no keyword, if there is any. -/
theorem templatedUrl_eq : templatedUrl r params =
    if others r params = [] then pathText r.segments params
    else pathText r.segments params ++ "?" ++ queryText (others r params) := by
  unfold templatedUrl withQuery
  rw [entries_leftovers, ← others]
  simp only [queryText_eq_empty]

theorem templatedUrl_congr (h : ShowAlike r params params') :
    templatedUrl r params = templatedUrl r params' := by
  rw [templatedUrl_eq, templatedUrl_eq, h.others, pathText_congr h.values]

/-! ## Parameters that show alike -/

theorem shown?_insert_of_ne {other value : String} (h : keyword ≠ other) :
    shown? (params.insert keyword value) other = shown? params other := by
  unfold shown?
  rw [OrderedMap.get?_insert, if_neg h]

theorem shown?_erase_of_ne {other : String} (h : keyword ≠ other) :
    shown? (params.erase keyword) other = shown? params other := by
  unfold shown?
  rw [OrderedMap.get?_erase_ne h]

theorem shown?_insert_blank (params : Params) (keyword : String) :
    shown? (params.insert keyword "") keyword = none := by
  unfold shown?
  rw [OrderedMap.get?_insert, if_pos rfl]
  rfl

theorem shown?_erase_self (params : Params) (keyword : String) :
    shown? (params.erase keyword) keyword = none := by
  unfold shown?
  rw [OrderedMap.get?_erase_self]
  rfl

theorem others_insert (value : String) (h : keyword ∈ r.template.keywords.keys) :
    others r (params.insert keyword value) = others r params :=
  OrderedMap.filter_insert params (fun name => name ∉ r.template.keywords.keys) value
    (by simpa using h)

theorem others_erase (h : keyword ∈ r.template.keywords.keys) :
    others r (params.erase keyword) = others r params :=
  OrderedMap.filter_erase params (fun name => name ∉ r.template.keywords.keys) (by simpa using h)

/-- A keyword that is given as empty shows as little as one that is left out. -/
theorem showAlike_blank (h : keyword ∈ r.template.keywords.keys) :
    ShowAlike r (params.insert keyword "") (params.erase keyword) where
  values p _ := by
    by_cases heq : keyword = p.keyword
    · rw [← heq, shown?_insert_blank, shown?_erase_self]
    · rw [shown?_insert_of_ne heq, shown?_erase_of_ne heq]
  others := by rw [others_insert "" h, others_erase h]

/-- A keyword without a placeholder does not show. -/
theorem showAlike_hidden (value : String) (h : keyword ∈ r.template.keywords.keys)
    (hhidden : ∀ p ∈ r.placeholders, keyword ≠ p.keyword) :
    ShowAlike r (params.insert keyword value) params where
  values p hp := shown?_insert_of_ne (hhidden p hp)
  others := others_insert value h

/-- The order of keywords does not show. -/
theorem showAlike_of_perm (h : params.entries.Perm params'.entries)
    (hothers : others r params = others r params') : ShowAlike r params params' where
  values p _ := by
    unfold shown?
    rw [OrderedMap.get?_of_perm h]
  others := hothers

/-! ## Building friendly URLs -/

variable {table : Table} {scope : Scope} {routeId : String} {handle : Handle}
  {options : BuildOptions}

/-- With all values that are required, the friendly URL of a route is built. -/
theorem buildUrl_of_supplies (hget : table.get? scope routeId = some handle)
    (hcanonical : EntityKind.ofRouteId? routeId = none)
    (htemplated : options.templated = true) (h : Supplies params handle.route)
    (entities : EntityResolver) :
    buildUrl table entities scope routeId params options =
      ⟨[.mode .templated], .ok (templatedUrl handle.route params ++ options.anchor)⟩ := by
  rw [buildUrl_of_known hget, knownUrl, hcanonical, ite_self]
  dsimp only
  rw [missingKeyword?_eq_none_iff.mpr h, if_pos htemplated]
  rfl

/-- How the friendly URLs of a route come out of parameters that have the values its rule
requires. -/
structure BuildsFriendly (r : Route) (anchor : String)
    (build : Params → Traced BuildStep RoutingError String) : Prop where
  /-- What shows alike has one URL. -/
  alike : ∀ params params', Supplies params r → Supplies params' r → ShowAlike r params params' →
    build params = build params'
  /-- A keyword vanishes with its affixes alike if it is given as empty and if it is left out. -/
  blank : ∀ params : Params, ∀ keyword ∈ r.template.keywords.keys,
    Supplies (params.erase keyword) r →
    build (params.insert keyword "") = build (params.erase keyword) ∧
    ∀ p ∈ r.placeholders, p.keyword = keyword →
      segmentText (params.insert keyword "") (.placeholder p) = "" ∧
      segmentText (params.erase keyword) (.placeholder p) = ""
  /-- A keyword without a placeholder never shows. -/
  hidden : ∀ params : Params, Supplies params r → ∀ keyword ∈ r.template.keywords.keys,
    (∀ p ∈ r.placeholders, keyword ≠ p.keyword) →
    ∀ value, build (params.insert keyword value) = build params
  /-- Keywords may come in any order. -/
  reordered : ∀ params params' : Params, Supplies params r →
    params.entries.Perm params'.entries → others r params = others r params' →
    build params = build params'
  /-- If there are only keywords, the URL is the path that the rule makes of them. -/
  path : ∀ params, Supplies params r → others r params = [] →
    (build params).outcome = .ok (pathText r.segments params ++ anchor)
  /-- The other parameters are its query. -/
  query : ∀ params, Supplies params r → others r params ≠ [] →
    (build params).outcome =
      .ok (pathText r.segments params ++ "?" ++ queryText (others r params) ++ anchor)

theorem supplies_of_keys (h : Supplies params r) (hkeys : ∀ keyword ∈ params.keys,
    keyword ∈ params'.keys) : Supplies params' r :=
  fun p hp hmissing => h p hp ⟨hmissing.1, fun hmem => hmissing.2 (hkeys _ hmem)⟩

theorem supplies_insert (value : String) (h : Supplies params r) :
    Supplies (params.insert keyword value) r :=
  supplies_of_keys h fun _ hother => OrderedMap.mem_keys_insert.mpr (.inr hother)

theorem supplies_of_erase (h : Supplies (params.erase keyword) r) : Supplies params r := by
  refine supplies_of_keys h fun other hother => ?_
  rw [OrderedMap.keys_erase] at hother
  exact List.mem_of_mem_filter hother

/-- The friendly URL of a route depends on what it shows of the parameters, and on nothing else. -/
theorem buildUrl_friendly (hget : table.get? scope routeId = some handle)
    (hcanonical : EntityKind.ofRouteId? routeId = none)
    (htemplated : options.templated = true) (entities : EntityResolver) :
    BuildsFriendly handle.route options.anchor fun params =>
      buildUrl table entities scope routeId params options := by
  have hbuild := fun params (h : Supplies params handle.route) =>
    buildUrl_of_supplies hget hcanonical htemplated h entities
  have halike : ∀ params params', Supplies params handle.route → Supplies params' handle.route →
      ShowAlike handle.route params params' →
      buildUrl table entities scope routeId params options =
        buildUrl table entities scope routeId params' options := by
    intro params params' h h' hshow
    rw [hbuild params h, hbuild params' h', templatedUrl_congr hshow]
  refine ⟨halike, ?_, ?_, ?_, ?_, ?_⟩
  · intro params keyword hkeyword h
    have hinsert : Supplies (params.insert keyword "") handle.route :=
      supplies_insert "" (supplies_of_erase h)
    refine ⟨halike _ _ hinsert h (showAlike_blank hkeyword), ?_⟩
    rintro p - rfl
    rw [segmentText_placeholder, segmentText_placeholder, shown?_insert_blank, shown?_erase_self]
    exact ⟨rfl, rfl⟩
  · intro params h keyword hkeyword hhidden value
    exact halike _ _ (supplies_insert value h) h (showAlike_hidden value hkeyword hhidden)
  · intro params params' h hperm hothers
    have hkeys : ∀ keyword ∈ params.keys, keyword ∈ params'.keys :=
      fun keyword hmem => (hperm.map Prod.fst).mem_iff.mp hmem
    exact halike _ _ h (supplies_of_keys h hkeys) (showAlike_of_perm hperm hothers)
  · intro params h hothers
    rw [hbuild params h, templatedUrl_eq, if_pos hothers]
  · intro params h hothers
    rw [hbuild params h, templatedUrl_eq, if_neg hothers]

/-- The values for a filtered category, with a page and a search behind them, -/
def redShoes : Params :=
  .ofList [("id", "5"), ("page", "2"), ("selected_filters", "red"), ("q", "a b")]

/-- and these in another order, with an empty text and a title. -/
def redShoesAtLength : Params :=
  .ofList [("page", "2"), ("meta_title", "Shoes"), ("selected_filters", "red"), ("rewrite", ""),
    ("id", "5"), ("q", "a b")]

/-- The title does not show in the URL of a filtered category, nor do the empty text and the order
of its keywords. -/
theorem buildUrl_friendly_filters : ∃ table : Table, ∀ entities : EntityResolver,
    buildUrl table entities ⟨1, 1⟩ "layered_rule" redShoesAtLength toReviews =
      buildUrl table entities ⟨1, 1⟩ "layered_rule" redShoes toReviews ∧
    (buildUrl table entities ⟨1, 1⟩ "layered_rule" redShoes toReviews).outcome =
      .ok "5-/red?page=2&q=a+b#reviews" := by
  obtain ⟨regex, -⟩ := Families.compile_layered
  let layered : Route := ⟨Families.layered, regex, Families.entitySegments [] "id_category" "-" ++
    [.placeholder Families.filtersPlaceholder]⟩
  let table := Table.empty.insert ⟨1, 1⟩ ⟨layered, none⟩
  refine ⟨table, fun entities => ?_⟩
  have hget : table.get? ⟨1, 1⟩ "layered_rule" = some ⟨layered, none⟩ := rfl
  have hfriendly := buildUrl_friendly hget rfl (rfl : toReviews.templated = true) entities
  have hvalues : ∀ p ∈ [Families.idPlaceholder "id_category", Families.rewritePlaceholder,
      Families.filtersPlaceholder], ¬ p.Missing redShoes ∧ ¬ p.Missing redShoesAtLength ∧
        shown? redShoesAtLength p.keyword = shown? redShoes p.keyword := by
    decide
  have hothers : others layered redShoesAtLength = [("page", "2"), ("q", "a b")] ∧
      others layered redShoes = [("page", "2"), ("q", "a b")] := ⟨rfl, rfl⟩
  have hsupplies : Supplies redShoes layered := fun p hp => (hvalues p hp).1
  refine ⟨hfriendly.alike _ _ (fun p hp => (hvalues p hp).2.1) hsupplies
    ⟨fun p hp => (hvalues p hp).2.2, hothers.1.trans hothers.2.symm⟩, ?_⟩
  rw [hfriendly.query _ hsupplies (by rw [hothers.2]; nofun), hothers.2]
  rfl

end Build

end Waymark
