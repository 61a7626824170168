import Waymark.Proofs.Build
import Waymark.Proofs.Families
import Waymark.Proofs.Text.Query

/-! # Controllers that a path brings along

The values in the path of a friendly URL are written as they are. So a value may hold a question
mark, at which the URL is cut when it is resolved, and a query behind it. That query may name a
controller; what is left of the parameters never does. A rule whose texts and fragments have no
question mark keeps its values in the path.
-/

namespace Waymark

open Rule

theorem Request.rawQuery?_append_of_some {path query : List Char} (h : rawQuery? path = some query)
    (more : List Char) : rawQuery? (path ++ more) = some (query ++ more) := by
  unfold rawQuery? at h
  obtain ⟨⟨before, after⟩, hsplit, rfl⟩ := Option.map_eq_some_iff.mp h
  obtain ⟨rfl, hbefore⟩ := Text.splitFirst_eq_some_iff.mp hsplit
  rw [List.append_assoc, List.cons_append]
  exact rawQuery?_append hbefore _

namespace Build

variable {r : Route} {params : Params}

/-- What is written behind the path of a friendly URL: nothing, or a question mark and what is left
of the parameters. -/
def leftoverText (r : Route) (params : Params) : List Char :=
  (withQuery "" (queryText (leftovers r.template params).entries)).toList

theorem toList_templatedUrl (r : Route) (params : Params) :
    (templatedUrl r params).toList =
      (pathText r.segments params).toList ++ leftoverText r params := by
  unfold templatedUrl leftoverText withQuery
  split
  next => exact (List.append_nil _).symm
  next =>
    rw [toList_withQuery, toList_withQuery]
    rfl

/-- The path of a friendly URL brings a query along, and in it the name of a controller that is
accepted with all that stands behind it. -/
structure Injects (r : Route) (params : Params) (injected : List Char) : Prop where
  query : Request.rawQuery? (pathText r.segments params).toList = some injected
  name : ∃ value, ("controller".toList, value) ∈ Text.Form.parse injected
  accepted : (Request.explicitController? (injected ++ leftoverText r params)).isSome = true

/-- What stands behind the path does not name a controller, if none but a keyword is named so. -/
theorem controller_of_append {injected : List Char}
    (hcontroller : params.contains "controller" = true →
      r.template.keywords.contains "controller" = true)
    (h : ∃ value, ("controller".toList, value) ∈
      Text.Form.parse (injected ++ leftoverText r params)) :
    ∃ value, ("controller".toList, value) ∈ Text.Form.parse injected := by
  obtain ⟨value, hmem⟩ := h
  unfold leftoverText withQuery at hmem
  split at hmem
  next =>
    rw [String.toList_empty, List.append_nil] at hmem
    exact ⟨value, hmem⟩
  next =>
    rw [toList_withQuery] at hmem
    have hmark : '?' ∉ "controller".toList := by decide
    refine Text.Form.mem_parse_append hmem hmark ?_
    rw [parse_queryText]
    intro other hother hname
    obtain ⟨pair, hpair, rfl⟩ := List.mem_map.mp hother
    exact ne_controller_of_mem_leftovers hcontroller hpair (String.toList_inj.mp hname)

/-- A friendly URL asks for a controller exactly if its path brings one along. -/
theorem isSome_explicitMatch?_iff
    (hcontroller : params.contains "controller" = true →
      r.template.keywords.contains "controller" = true) :
    (Resolve.explicitMatch? (templatedUrl r params)).isSome = true ↔
      ∃ injected, Injects r params injected := by
  constructor
  · intro hsome
    cases hquery : Request.rawQuery? (pathText r.segments params).toList with
    | none =>
        have hmark := Text.splitFirst_eq_none_iff.mp (Option.map_eq_none_iff.mp hquery)
        rw [explicitMatch?_templatedUrl hmark hcontroller] at hsome
        cases hsome
    | some injected =>
        unfold Resolve.explicitMatch? at hsome
        rw [toList_templatedUrl, Request.rawQuery?_append_of_some hquery, Option.bind_some,
          Option.isSome_map] at hsome
        exact ⟨injected, hquery,
          controller_of_append hcontroller (Request.exists_controller_of_isSome hsome), hsome⟩
  · rintro ⟨injected, hquery, -, haccepted⟩
    unfold Resolve.explicitMatch?
    rw [toList_templatedUrl, Request.rawQuery?_append_of_some hquery, Option.bind_some,
      Option.isSome_map]
    exact haccepted

end Build

/-! ## Rules without question marks -/

/-- A segment without a question mark in its texts and in all that its fragment matches. -/
def Rule.Segment.Unmarked : Segment → Prop
  | .literal text => '?' ∉ text.toList
  | .placeholder p =>
      '?' ∉ p.prepend.toList ∧ '?' ∉ p.append.toList ∧ ∀ word ∈ p.spec.language, '?' ∉ word

/-- The values that are supplied for the placeholders of a rule are what their fragments match. -/
def Route.Admits (r : Route) (params : Params) : Prop :=
  ∀ p ∈ r.placeholders, ∀ value, params.get? p.keyword = some value → value ≠ "" →
    value.toList ∈ p.spec.language

theorem Build.questionMark_not_mem_pathText {r : Route} {params : Params}
    (hunmarked : ∀ segment ∈ r.segments, segment.Unmarked) (hadmits : r.Admits params) :
    '?' ∉ (pathText r.segments params).toList := by
  unfold pathText
  rw [String.toList_join, List.flatMap_map]
  intro hmem
  obtain ⟨segment, hsegment, hmark⟩ := List.mem_flatMap.mp hmem
  have hclean := hunmarked segment hsegment
  cases segment with
  | literal text => exact hclean hmark
  | placeholder p =>
      obtain ⟨hprepend, happend, hfragment⟩ := hclean
      have hp : p ∈ r.placeholders := List.mem_filterMap.mpr ⟨_, hsegment, rfl⟩
      unfold segmentText at hmark
      dsimp only at hmark
      split at hmark
      next value hvalue =>
        split at hmark
        next => cases hmark
        next hne =>
          rw [String.toList_append, String.toList_append, List.append_assoc] at hmark
          rcases List.mem_append.mp hmark with hmark | hmark
          · exact hprepend hmark
          · rcases List.mem_append.mp hmark with hmark | hmark
            · exact hfragment _ (hadmits p hp value hvalue hne) hmark
            · exact happend hmark
      next => cases hmark

namespace Snapshot

variable {s : Snapshot} {scope : Scope} {routeId url : String} {handle : Handle} {params : Params}

/-- A friendly URL resolves to an explicit match exactly if its path brings a query along that
names a controller. -/
theorem resolve_build_explicit_iff (hget : s.table.get? scope routeId = some handle)
    (hcanonical : EntityKind.ofRouteId? routeId = none)
    (hcontroller : params.contains "controller" = true →
      handle.route.template.keywords.contains "controller" = true)
    (hbuild : (s.build scope routeId params true "").outcome = .ok url) :
    (∃ found, (s.resolve (s.request url scope)).outcome = .ok (.matched found) ∧
      found.source = .explicit) ↔ ∃ injected, Build.Injects handle.route params injected := by
  rw [eq_urlOf_of_build hget hcanonical hbuild]
  exact exists_explicit_iff.trans (Build.isSome_explicitMatch?_iff hcontroller)

/-- Where the rule has no question mark and the values are what the fragments match, a friendly
URL never resolves to an explicit match. -/
theorem source_ne_explicit_of_unmarked (hget : s.table.get? scope routeId = some handle)
    (hcanonical : EntityKind.ofRouteId? routeId = none)
    (hcontroller : params.contains "controller" = true →
      handle.route.template.keywords.contains "controller" = true)
    (hunmarked : ∀ segment ∈ handle.route.segments, segment.Unmarked)
    (hadmits : handle.route.Admits params)
    (hbuild : (s.build scope routeId params true "").outcome = .ok url) {found : RouteMatch}
    (hresolve : (s.resolve (s.request url scope)).outcome = .ok (.matched found)) :
    found.source ≠ .explicit := by
  intro hsource
  have hexplicit := explicit_of_resolve hresolve hsource
  have hnone := Build.explicitMatch?_templatedUrl
    (Build.questionMark_not_mem_pathText hunmarked hadmits) hcontroller
  rw [eq_urlOf_of_build hget hcanonical hbuild] at hexplicit
  cases hnone.symm.trans hexplicit

/-- The seventh page is no controller. -/
theorem resolve_build_explicit_iff_seventhPage :
    ∃ r url, r.template = Route.numberedPage ∧
      ((ofRoute r).build ⟨1, 1⟩ r.routeId seventhPage true "").outcome = .ok url ∧
      ¬ ∃ found, ((ofRoute r).resolve ((ofRoute r).request url ⟨1, 1⟩)).outcome =
        .ok (.matched found) ∧ found.source = .explicit := by
  obtain ⟨regex, hcompile⟩ := Route.compile_numberedPage
  let r : Route := ⟨Route.numberedPage, regex, [.placeholder Route.pageNumber, .literal ".html"]⟩
  have hcanonical : EntityKind.ofRouteId? r.routeId = none := rfl
  have hcontroller : seventhPage.contains "controller" = false := by decide
  have hsupplied : Build.missingKeyword? r seventhPage = none := rfl
  have hbuild := build_ofRoute hcanonical hsupplied true
  refine ⟨r, _, rfl, hbuild, ?_⟩
  rw [resolve_build_explicit_iff (get?_ofRoute r) hcanonical (by rw [hcontroller]; nofun) hbuild]
  rintro ⟨injected, hquery, -, -⟩
  have hpath : Build.pathText r.segments seventhPage = "7.html" := by
    change Build.pathText [.placeholder Route.pageNumber, .literal ".html"] seventhPage = _
    decide
  rw [hpath, Request.rawQuery?_of_not_mem (by decide)] at hquery
  cases hquery

/-- Narrowed by a filter that is a query. -/
def queryFilter : Params := .ofList [("id", "5"), ("selected_filters", "?controller=cart")]

theorem compile_anything : Pattern.Regex.compile ".*" =
    .ok ⟨".*", .repeated (.one (.compl (.only '\n'))) 0 none true⟩ := by
  rfl

theorem admits_queryFilter {r : Route}
    (h : r.placeholders = [Families.idPlaceholder "id_category", Families.rewritePlaceholder,
      Families.filtersPlaceholder]) : r.Admits queryFilter := by
  have hid : queryFilter.get? "id" = some "5" := by decide
  have hrewrite : queryFilter.get? "rewrite" = none := by decide
  have hfilters : queryFilter.get? "selected_filters" = some "?controller=cart" := by decide
  have hfilter : ∀ c ∈ "?controller=cart".toList,
      (Pattern.CharSet.compl (.only '\n')).contains c = true := by
    have hline : '\n' ∉ "?controller=cart".toList := by decide
    intro c hc
    have hne : c ≠ '\n' := fun heq => hline (heq ▸ hc)
    simpa [Pattern.CharSet.contains] using hne
  intro p hp value hvalue _
  rw [h] at hp
  simp only [List.mem_cons, List.not_mem_nil, or_false] at hp
  rcases hp with rfl | rfl | rfl
  · obtain rfl : "5" = value := Option.some.inj (hid.symm.trans hvalue)
    rw [@Keyword.language_eq (Families.idPlaceholder "id_category").spec _ Route.compile_digits]
    exact Pattern.Expr.singleton_mem_language rfl (by simp)
  · cases hrewrite.symm.trans hvalue
  · obtain rfl : "?controller=cart" = value := Option.some.inj (hfilters.symm.trans hvalue)
    rw [@Keyword.language_eq Families.filtersPlaceholder.spec _ compile_anything]
    exact Pattern.Expr.mem_language_repeated_iff.mpr ⟨Nat.zero_le _, hfilter⟩

/-- In the layered family any text may be a filter, also one that names a controller. -/
theorem resolve_build_explicit_layered :
    ∃ (s : Snapshot) (handle : Handle) (url : String) (found : RouteMatch),
      s.settings.templatedRouting = true ∧ s.table.Built ∧
      handle.route.template = Families.layered ∧
      s.table.get? ⟨1, 1⟩ "layered_rule" = some handle ∧
      EntityKind.ofRouteId? "layered_rule" = none ∧
      queryFilter.contains "controller" = false ∧ handle.route.Admits queryFilter ∧
      (s.build ⟨1, 1⟩ "layered_rule" queryFilter true "").outcome = .ok url ∧
      (s.resolve (s.request url ⟨1, 1⟩)).outcome = .ok (.matched found) ∧
      found.source = .explicit ∧ found.controller = "cart" := by
  obtain ⟨regex, hcompile⟩ := Families.compile_layered
  let r : Route := ⟨Families.layered, regex,
    Families.entitySegments [] "id_category" "-" ++ [.placeholder Families.filtersPlaceholder]⟩
  have hcanonical : EntityKind.ofRouteId? r.routeId = none := rfl
  have hcontroller : queryFilter.contains "controller" = false := by decide
  have hsupplied : Build.missingKeyword? r queryFilter = none := rfl
  have hbuild := build_ofRoute hcanonical hsupplied true
  have hpath : Build.pathText r.segments queryFilter = "5-/?controller=cart" := by
    change Build.pathText (Families.entitySegments [] "id_category" "-" ++
      [.placeholder Families.filtersPlaceholder]) queryFilter = _
    decide
  have hleft : Build.leftovers r.template queryFilter = .empty := by
    change Build.leftovers Families.layered queryFilter = _
    decide +kernel
  have hurl : Build.templatedUrl r queryFilter = "5-/?controller=cart" := by
    unfold Build.templatedUrl
    rw [hpath, hleft]
    rfl
  -- the filter is read as the query that it spells
  let query : Params := .ofList [("controller", "cart")]
  have hquery : Request.rawQuery? "5-/?controller=cart".toList =
      some (Build.queryText query.entries).toList := by
    decide
  have hget : query.get? "controller" = some "cart" := rfl
  have hname : Request.named? "cart".toList = some ("cart", .empty) :=
    Request.named?_of_isControllerName (by decide)
  have hexplicit : ∃ found, Resolve.explicitMatch? (Build.templatedUrl r queryFilter) =
      some found ∧ found.source = .explicit ∧ found.controller = "cart" := by
    unfold Resolve.explicitMatch?
    rw [hurl, hquery, Option.bind_some, Build.explicitController?_entries, hget, Option.bind_some,
      hname]
    exact ⟨_, rfl, rfl, by decide⟩
  obtain ⟨found, hfound, hsource, hcart⟩ := hexplicit
  exact ⟨ofRoute r, ⟨r, none⟩, _, found, rfl, built_ofRoute hcompile, rfl, get?_ofRoute r,
    hcanonical, hcontroller, admits_queryFilter rfl, hbuild, resolve_of_explicit hfound,
    hsource, hcart⟩

end Snapshot

end Waymark
