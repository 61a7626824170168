import Waymark.Proofs.Route.Matching
import Waymark.Proofs.Stages
import Waymark.Proofs.Table

/-! # The priority of routes

A request that no earlier stage answers is left to the routes of its scope, and of these the first
that takes its path wins. The path of a request is never a slash alone, and that is all that an
empty rule accepts. So no request is won by a route with an empty rule, wherever it stands.
-/

namespace Waymark

open Rule

/-! ## Empty rules -/

namespace Route

variable {r : Route} {path : String}

theorem segments_of_emptyRule (h : r.IsCompiled) (hempty : r.template.rule = "") :
    r.segments = [] := by
  obtain ⟨-, hsegments, -⟩ := compile_eq_ok h
  have hpieces : Piece.ofRule 0 r.template.rule.toList = .ok (Piece.ofText []) := by
    rw [hempty]
    exact Piece.ofRule_of_braceless (by decide)
  rw [segments_of_pieces hpieces] at hsegments
  exact (Except.ok.inj hsegments).symm

/-- An empty rule accepts nothing but a slash. -/
theorem eq_slash_of_emptyRule (h : r.IsCompiled) (hempty : r.template.rule = "")
    (haccepts : (r.captures path).isSome = true) : path = "/" := by
  have hsegments := segments_of_emptyRule h hempty
  obtain ⟨rest, found, hpath, hdecomposes⟩ :=
    (isSome_captures_iff h (by rw [hsegments]; nofun) path).mp haccepts
  rw [hsegments] at hdecomposes
  cases hdecomposes
  exact String.toList_inj.mp hpath

end Route

/-! ## The scan of a request -/

/-- No stage before the routes answers a request. -/
structure Resolve.ReachesRoutes (entities : EntityResolver) (context : RequestContext) : Prop where
  notExplicit : explicitMatch? context.path = none
  templated : context.templatedRouting = true
  notAsset : Request.isStaticAsset context.normalized.path = false
  notRoot : context.normalized.path ≠ ""
  notScript : context.normalized.indexScript = false
  noEntity : (lookupEntity entities context.normalized context.scope).outcome = .ok none

namespace Resolve

variable {table : Table} {entities : EntityResolver} {settings : Settings}
  {context : RequestContext}

theorem ReachesRoutes.asksEntities (h : ReachesRoutes entities context) : context.AsksEntities :=
  ⟨h.notExplicit, h.templated, h.notAsset, h.notRoot, h.notScript⟩

/-- Such a request is answered by the scan. -/
theorem resolve_of_reachesRoutes (h : ReachesRoutes entities context) :
    (resolve table entities settings context).outcome =
      .ok (ofMatch? (scan settings context.normalized (table.routes context.scope))) := by
  rw [resolve_of_asksEntities h.asksEntities, h.noEntity]
  rfl

/-- The path of a request is taken by no route with an empty rule. -/
theorem not_takes_of_emptyRule {r : Route} (hcompiled : r.IsCompiled)
    (hempty : r.template.rule = "") : ¬ r.Takes context.normalized.path := by
  rintro ⟨-, haccepts⟩
  have hpath := Route.eq_slash_of_emptyRule hcompiled hempty haccepts
  apply Request.back_of_normalize context.path context.baseUri context.multiLocale
  change context.normalized.path.toList.getLast? = _
  rw [hpath]
  rfl

/-- A request that reaches the routes has a match from the routes exactly for the first route of
its scope that takes the path, and no match exactly if none does. The route that wins has a rule
that is not empty. -/
theorem resolve_first_match (hbuilt : table.Built) (h : ReachesRoutes entities context) :
    (∀ routeId, (∃ found, (resolve table entities settings context).outcome =
        .ok (.matched found) ∧ found.source = .route ∧ found.routeId = routeId) ↔
      ∃ handle, table.get? context.scope routeId = some handle ∧
        handle.IsFirst context.normalized.path (table.routes context.scope)) ∧
    ((resolve table entities settings context).outcome = .ok .notFound ↔
      ∀ handle ∈ table.routes context.scope, ¬ handle.route.Takes context.normalized.path) ∧
    ∀ found, (resolve table entities settings context).outcome = .ok (.matched found) →
      ∃ handle, table.get? context.scope found.routeId = some handle ∧
        handle.route.template.rule ≠ "" := by
  rw [resolve_of_reachesRoutes h]
  simp only [Except.ok.injEq, ofMatch?_eq_matched, ofMatch?_eq_notFound]
  have hwinner : ∀ found, scan settings context.normalized (table.routes context.scope) =
      some found → ∃ handle, table.get? context.scope found.routeId = some handle ∧
        handle.IsFirst context.normalized.path (table.routes context.scope) := by
    intro found hscan
    obtain ⟨handle, hfirst, htry⟩ := scan_eq_some_iff.mp hscan
    obtain ⟨-, captures, -, rfl⟩ := tryRoute_eq_some.mp htry
    exact ⟨handle, hbuilt.get?_of_mem_routes hfirst.mem, hfirst⟩
  refine ⟨?_, scan_eq_none_iff, ?_⟩
  · intro routeId
    constructor
    · rintro ⟨found, hscan, -, rfl⟩
      exact hwinner found hscan
    · rintro ⟨handle, hget, hfirst⟩
      obtain ⟨found, hscan, hsource, hid⟩ := exists_scan_eq_some hfirst
      exact ⟨found, hscan, hsource, hid.trans (hbuilt.spec hget).1⟩
  · intro found hscan
    obtain ⟨handle, hget, hfirst⟩ := hwinner found hscan
    exact ⟨handle, hget, fun hempty =>
      not_takes_of_emptyRule (hbuilt.spec hget).2 hempty hfirst.1⟩

/-! ## A page behind the index -/

/-- A request for the page with the number seven. -/
def seventhRequest : RequestContext := ⟨"/7.html/?print=1", ⟨1, 1⟩, true, false, "/"⟩

theorem normalized_seventhRequest : seventhRequest.normalized = ⟨"/7.html", none, false⟩ := by
  decide +kernel

theorem reachesRoutes_seventhRequest : ReachesRoutes (.ofRecords []) seventhRequest := by
  refine ⟨by decide +kernel, rfl, ?_, ?_, ?_, ?_⟩
  all_goals rw [normalized_seventhRequest]
  · decide
  · decide
  · rfl

/-- The seventh of the numbered pages is found by its path. -/
theorem takes_seventhPage {regex : Pattern.Regex} (h : Route.compile Route.numberedPage =
      .ok ⟨Route.numberedPage, regex, [.placeholder Route.pageNumber, .literal ".html"]⟩) :
    Route.Takes ⟨Route.numberedPage, regex, [.placeholder Route.pageNumber, .literal ".html"]⟩
      "/7.html" := by
  refine ⟨.inl nofun, (Route.isSome_captures_iff h ?_ _).mpr ?_⟩
  · refine Route.selfContained_of_placeholders fun p hp => ?_
    rw [List.mem_singleton.mp hp]
    exact Route.selfContained_pageNumber
  · exact ⟨_, _, rfl, .cons (.present Route.seven_mem_language) (.cons (.literal ".html") .nil)⟩

/-- The index was put into the table first, and still the page wins. -/
theorem resolve_first_match_seventhPage : ∃ (index page : Handle) (table : Table),
    index.route.template = Families.index ∧ page.route.template = Route.numberedPage ∧
      table = (Table.empty.insert ⟨1, 1⟩ index).insert ⟨1, 1⟩ page ∧ table.Built ∧
      ReachesRoutes (.ofRecords []) seventhRequest ∧
      ∃ found, (resolve table (.ofRecords []) .initial seventhRequest).outcome =
        .ok (.matched found) ∧ found.source = .route ∧ found.routeId = "page" := by
  obtain ⟨⟨template, regex, segments⟩, hindex⟩ := Families.compile_index
  obtain rfl : template = Families.index := (Route.compile_eq_ok hindex).1
  obtain ⟨regex', hpage⟩ := Route.compile_numberedPage
  let index : Handle := ⟨⟨Families.index, regex, segments⟩, none⟩
  let page : Handle :=
    ⟨⟨Route.numberedPage, regex', [.placeholder Route.pageNumber, .literal ".html"]⟩, none⟩
  let table := (Table.empty.insert ⟨1, 1⟩ index).insert ⟨1, 1⟩ page
  have hbuilt : table.Built := .insert _ (.insert _ .empty hindex) hpage
  have hroutes : table.routes ⟨1, 1⟩ = [page, index] := rfl
  have htakes : page.route.Takes "/7.html" := takes_seventhPage hpage
  have hfirst : page.IsFirst seventhRequest.normalized.path
      (table.routes seventhRequest.scope) := by
    rw [normalized_seventhRequest]
    exact ⟨htakes, [], [index], hroutes, nofun⟩
  exact ⟨index, page, table, rfl, rfl, rfl, hbuilt, reachesRoutes_seventhRequest,
    ((resolve_first_match hbuilt reachesRoutes_seventhRequest).1 "page").mpr ⟨page, rfl, hfirst⟩⟩

end Resolve

end Waymark
