import Waymark.Proofs.Build
import Waymark.Proofs.RouteMatch

/-! # Both forms of a route's URL

A friendly URL is matched by its route, which selects a controller and carries parameters. A URL
in query form names a controller, and the resolver takes it at its word. So the two forms lead
to the same controller where the query names the one that the route selects, and only one of
them heeds the query when it comes to modules: what a friendly URL has behind its path is not
looked at.
-/

namespace Waymark

/-- A name of a controller that stands for that controller in either form of a URL: it is not the
name of the index, and no module is written in it. -/
structure Request.IsOrdinary (name : String) : Prop where
  valid : isControllerName name.toList = true
  notIndex : name ≠ Families.indexId
  notModule : splitModule? name.toList = none

theorem Request.IsOrdinary.nonempty {name : String} (h : IsOrdinary name) : name ≠ "" := by
  rintro rfl
  cases h.valid

namespace Resolve

variable {settings : Settings} {r : Route} {captures : List (String × String)}
  {localeCode : Option String}

theorem controller_routeMatch {name : String} (hselected : selected? r captures = some name)
    (hname : Request.IsOrdinary name) :
    (routeMatch settings r captures localeCode).controller = Request.controllerName name := by
  have hsplit : splitOff (selected? r captures) = ([], some name) := by
    rw [hselected, splitOff_of_plain hname.notModule]
  rw [routeMatch_eq hsplit]
  exact congrArg Request.controllerName (if_pos ⟨hname.nonempty, hname.notIndex⟩)

theorem moduleDispatch_routeMatch
    (h : ∀ name, selected? r captures = some name → Request.splitModule? name.toList = none) :
    (routeMatch settings r captures localeCode).moduleDispatch =
      ((givenParams r captures).get? "fc" == some "module") := by
  have hsplit : splitOff (selected? r captures) = ([], selected? r captures) := by
    cases hselected : selected? r captures with
    | none => rfl
    | some name => exact splitOff_of_plain (h name hselected)
  rw [routeMatch_eq hsplit]
  rfl

end Resolve

namespace Build

variable {t : Template} {scope : Scope} {params : Params} {multiLocale : Bool}

/-- The query names the target of the route. -/
theorem get?_controller_queryParams {target : String} (htarget : t.target = some target)
    (hne : target ≠ "") :
    (queryParams t scope params multiLocale).get? "controller" = some target := by
  unfold queryParams
  rw [htarget]
  dsimp only
  rw [if_neg hne]
  cases multiLocale <;> simp

theorem get?_fc_queryParams :
    (queryParams t scope params multiLocale).get? "fc" =
      ((leftovers t params).insertAll (t.params.entries ++ boundValues t params)).get? "fc" := by
  unfold queryParams
  cases t.target with
  | none => cases multiLocale <;> simp
  | some target => by_cases htarget : target = "" <;> cases multiLocale <;> simp [htarget]

/-- Where neither what is left over nor a bound value goes by the name, the query asks for a module
exactly if every match does. -/
theorem get?_fc_queryParams_of_none (hleft : (leftovers t params).get? "fc" = none)
    (hbound : ∀ pair ∈ boundValues t params, pair.1 ≠ "fc") :
    (queryParams t scope params multiLocale).get? "fc" = t.params.get? "fc" := by
  rw [get?_fc_queryParams, OrderedMap.insertAll_append, OrderedMap.get?_insertAll_of_ne hbound,
    OrderedMap.get?_insertAll_entries, hleft, Option.or_none]

end Build

namespace Snapshot

variable {s : Snapshot} {scope : Scope} {routeId : String} {handle : Handle} {params : Params}

/-- The parameters that the URL of a route in query form is written from. -/
def queryOf (s : Snapshot) (scope : Scope) (r : Route) (params : Params) : Params :=
  Build.queryParams r.template scope params s.settings.multiLocale

/-- A match is what a route gives for what it captures from the path of its friendly URL. -/
structure Captures (s : Snapshot) (scope : Scope) (r : Route) (params : Params)
    (captures : List (String × String)) (found : RouteMatch) : Prop where
  captured : r.captures (s.request (s.urlOf scope r params true) scope).normalized.path =
    some captures
  found_eq : found = Resolve.routeMatch s.settings r captures
    (s.request (s.urlOf scope r params true) scope).normalized.localeCode

/-- Two matches dispatch alike as far as the query of the one says what the captures of the other
give. -/
structure DispatchAlike (s : Snapshot) (scope : Scope) (r : Route) (params : Params)
    (captures : List (String × String)) (friendly query : RouteMatch) : Prop where
  /-- An ordinary controller is the same, if it is the target of the route or named by the query. -/
  controller : ∀ name, Resolve.selected? r captures = some name → Request.IsOrdinary name →
    (r.template.target = none → (s.queryOf scope r params).get? "controller" = some name) →
    friendly.controller = query.controller
  /-- Where no module is split off, only the parameter `fc` decides. -/
  moduleDispatch :
    (∀ name, Resolve.selected? r captures = some name → Request.splitModule? name.toList = none) →
    (friendly.moduleDispatch = query.moduleDispatch ↔
      ((Resolve.givenParams r captures).get? "fc" = some "module" ↔
        (s.queryOf scope r params).get? "fc" = some "module"))
  /-- That parameter is the same unless something besides the route supplies it. -/
  fc : (Resolve.boundParams captures).get? "fc" = none →
    (Build.leftovers r.template params).get? "fc" = none →
    (∀ pair ∈ Build.boundValues r.template params, pair.1 ≠ "fc") →
    (Resolve.givenParams r captures).get? "fc" = (s.queryOf scope r params).get? "fc"

/-- A route of a bucket with the id of another one is the other one. -/
theorem eq_of_mem_routes {table : Table} {other : Handle} (hbuilt : table.Built)
    (hget : table.get? scope routeId = some handle) (hmem : other ∈ table.routes scope)
    (hid : other.route.routeId = routeId) : other = handle := by
  rw [← hid, hbuilt.get?_of_mem_routes hmem] at hget
  exact Option.some.inj hget

/-- A URL in query form asks for what its parameters say. -/
theorem explicitMatch?_urlOf (s : Snapshot) (scope : Scope) (r : Route) (params : Params) :
    Resolve.explicitMatch? (s.urlOf scope r params false) =
      Build.queryMatch? (s.queryOf scope r params) :=
  Build.explicitMatch?_query (s.queryOf scope r params)

/-- If the friendly URL of a route leads to the route and its URL in query form names a controller,
then both dispatch alike, as far as the query says what the captures give. -/
theorem resolve_urls_dispatchAlike {friendlyUrl queryUrl : String} {friendly query : RouteMatch}
    (hbuilt : s.table.Built) (hget : s.table.get? scope routeId = some handle)
    (hcanonical : EntityKind.ofRouteId? routeId = none)
    (hfriendlyUrl : (s.build scope routeId params true "").outcome = .ok friendlyUrl)
    (hqueryUrl : (s.build scope routeId params false "").outcome = .ok queryUrl)
    (hfriendly : (s.resolve (s.request friendlyUrl scope)).outcome = .ok (.matched friendly))
    (hroute : friendly.source = .route) (hid : friendly.routeId = routeId)
    (hquery : (s.resolve (s.request queryUrl scope)).outcome = .ok (.matched query))
    (hexplicit : query.source = .explicit) :
    ∃ captures,
      s.Captures scope handle.route params captures friendly ∧
      s.DispatchAlike scope handle.route params captures friendly query := by
  rw [eq_urlOf_of_build hget hcanonical hfriendlyUrl] at hfriendly
  rw [eq_urlOf_of_build hget hcanonical hqueryUrl] at hquery
  obtain ⟨other, hother, captures, hcaptures, rfl⟩ := exists_route_of_source hfriendly hroute
  obtain rfl := eq_of_mem_routes hbuilt hget hother hid
  have hmatch := explicit_of_resolve hquery hexplicit
  rw [explicitMatch?_urlOf] at hmatch
  refine ⟨captures, ⟨hcaptures, rfl⟩, ?_, ?_, ?_⟩
  · intro name hselected hname hnamed
    have hget : (s.queryOf scope other.route params).get? "controller" = some name := by
      cases htarget : other.route.template.target with
      | none => exact hnamed htarget
      | some target =>
          unfold Resolve.selected? Resolve.selectedController at hselected
          rw [htarget] at hselected
          obtain rfl : target = name := Option.some.inj hselected
          exact Build.get?_controller_queryParams htarget hname.nonempty
    rw [Build.queryMatch?_of_name hget hname.valid] at hmatch
    rw [Resolve.controller_routeMatch hselected hname, ← Option.some.inj hmatch]
  · intro hsplit
    rw [Resolve.moduleDispatch_routeMatch hsplit, Build.moduleDispatch_of_queryMatch? hmatch,
      Bool.eq_iff_iff, beq_iff_eq, beq_iff_eq]
  · intro hcaptured hleft hbound
    unfold Resolve.givenParams queryOf
    rw [Build.get?_fc_queryParams_of_none hleft hbound, OrderedMap.get?_insertAll_entries,
      hcaptured, Option.or_none]

/-! ## A sale -/

/-- A route with a keyword that is bound to the controller and has no place in the rule. -/
def sale (target : Option String) : Template :=
  (Template.plain "sale" "sale" target).withKeyword "kind" ⟨"[a-z]+", some "controller"⟩

theorem compile_sale (target : Option String) : ∃ regex,
    Route.compile (sale target) = .ok ⟨sale target, regex, [.literal "sale"]⟩ ∧
      regex.captures "/sale" = some [] := by
  have hpieces : Rule.Piece.ofRule 0 "sale".toList = .ok (Rule.Piece.ofText "sale".toList) :=
    Rule.Piece.ofRule_of_braceless (by decide)
  have hsegments : Rule.segments (sale target) = .ok [.literal "sale"] :=
    @Rule.segments_of_pieces (sale target) _ hpieces
  exact ⟨_, Route.compile_of_reads hsegments rfl rfl (by decide), rfl⟩

/-- A route that leads to the sale. -/
structure IsSale (r : Route) : Prop where
  routeId : r.routeId = "sale"
  segments : r.segments = [.literal "sale"]
  mayMatch : r.template.mayMatch = true
  captures : r.captures "/sale" = some []

section Sale

variable {r : Route} (hsale : IsSale r)

include hsale

theorem pathText_sale (params : Params) : Build.pathText r.segments params = "sale" := by
  rw [hsale.segments]
  rfl

theorem placeholders_sale : r.placeholders = [] := by
  unfold Route.placeholders
  rw [hsale.segments]
  rfl

theorem missingKeyword?_sale (params : Params) : Build.missingKeyword? r params = none := by
  unfold Build.missingKeyword?
  rw [placeholders_sale hsale]
  rfl

/-- Nothing is in the way of the friendly URL of the sale. -/
theorem returns_sale (hcontroller : params.contains "controller" = false) :
    (ofRoute r).Returns ⟨1, 1⟩ ⟨r, none⟩ params := by
  refine returns_ofRoute (by rw [hsale.routeId]; rfl) hsale.mayMatch ?_ ?_ hcontroller
    (pathText_sale hsale params) ⟨by decide, by decide, by decide, by decide, by decide⟩
    (by decide) (by decide)
  · rw [placeholders_sale hsale]
    nofun
  · rw [placeholders_sale hsale]
    nofun

theorem captures_sale :
    r.captures ("/" ++ Build.pathText r.segments params) = some [] := by
  rw [pathText_sale hsale]
  exact hsale.captures

theorem normalized_sale (hcontroller : params.contains "controller" = false) :
    ((ofRoute r).request ((ofRoute r).urlOf ⟨1, 1⟩ r params true) ⟨1, 1⟩).normalized =
      ⟨"/" ++ Build.pathText r.segments params, none, false⟩ := by
  have hnormalized := normalize_eq (returns_sale hsale hcontroller)
  exact hnormalized

/-- The friendly URL of the sale leads to the sale. -/
theorem resolve_sale (hcontroller : params.contains "controller" = false) :
    ((ofRoute r).resolve ((ofRoute r).request ((ofRoute r).urlOf ⟨1, 1⟩ r params true)
      ⟨1, 1⟩)).outcome = .ok (.matched (Resolve.routeMatch .initial r [] none)) :=
  resolve_eq (mem_routes (get?_ofRoute r)) (returns_sale hsale hcontroller) (captures_sale hsale)

end Sale

/-- Whoever advertises the sale may say more about it. -/
def spring : Params := .ofList [("season", "spring")]

theorem resolve_urls_dispatchAlike_sale :
    ∃ r friendly query, r.template = sale (some "sale") ∧
      ((ofRoute r).resolve ((ofRoute r).request ((ofRoute r).urlOf ⟨1, 1⟩ r spring true)
        ⟨1, 1⟩)).outcome = .ok (.matched friendly) ∧
      ((ofRoute r).resolve ((ofRoute r).request ((ofRoute r).urlOf ⟨1, 1⟩ r spring false)
        ⟨1, 1⟩)).outcome = .ok (.matched query) ∧
      friendly.controller = query.controller ∧ friendly.moduleDispatch = query.moduleDispatch := by
  obtain ⟨regex, hcompile, hcaptures⟩ := compile_sale (some "sale")
  let r : Route := ⟨sale (some "sale"), regex, [.literal "sale"]⟩
  have hsale : IsSale r := ⟨rfl, rfl, rfl, hcaptures⟩
  have hcanonical : EntityKind.ofRouteId? r.routeId = none := rfl
  have hbuild := build_ofRoute hcanonical (missingKeyword?_sale hsale spring)
  have hget : ((ofRoute r).queryOf ⟨1, 1⟩ r spring).get? "controller" = some "sale" :=
    Build.get?_controller_queryParams rfl (by decide)
  have hvalid : Request.isControllerName "sale".toList = true := by decide
  have hmatch := (explicitMatch?_urlOf _ _ r _).trans (Build.queryMatch?_of_name hget hvalid)
  have hordinary : Request.IsOrdinary "sale" := ⟨hvalid, by decide, by decide⟩
  obtain ⟨friendly, hfriendly, hroute, hid⟩ : ∃ friendly, ((ofRoute r).resolve
      ((ofRoute r).request ((ofRoute r).urlOf ⟨1, 1⟩ r spring true) ⟨1, 1⟩)).outcome =
        .ok (.matched friendly) ∧ friendly.source = .route ∧ friendly.routeId = r.routeId :=
    ⟨_, resolve_sale hsale rfl, rfl, rfl⟩
  obtain ⟨query, hquery, hexplicit⟩ : ∃ query, ((ofRoute r).resolve
      ((ofRoute r).request ((ofRoute r).urlOf ⟨1, 1⟩ r spring false) ⟨1, 1⟩)).outcome =
        .ok (.matched query) ∧ query.source = .explicit :=
    ⟨_, resolve_of_explicit hmatch, rfl⟩
  have hbuilt : (ofRoute r).table.Built := @built_ofRoute r hcompile
  obtain ⟨captures, hcaptured, halike⟩ := resolve_urls_dispatchAlike hbuilt (get?_ofRoute r)
    hcanonical (hbuild true) (hbuild false) hfriendly hroute hid hquery hexplicit
  have hselected : Resolve.selected? r captures = some "sale" := rfl
  have hsplit : ∀ name, Resolve.selected? r captures = some name →
      Request.splitModule? name.toList = none := by
    rintro name hname
    obtain rfl : "sale" = name := Option.some.inj (hselected.symm.trans hname)
    exact hordinary.notModule
  refine ⟨r, friendly, query, rfl, hfriendly, hquery,
    halike.controller "sale" hselected hordinary nofun, (halike.moduleDispatch hsplit).mpr ?_⟩
  -- nothing is captured, and the season is no module
  have hnothing : captures = [] := by
    have hcaptured := hcaptured.captured
    rw [normalized_sale hsale rfl, captures_sale hsale] at hcaptured
    exact (Option.some.inj hcaptured).symm
  have hleft : (Build.leftovers (sale (some "sale")) spring).get? "fc" = none := by decide
  have hbound : ∀ pair ∈ Build.boundValues (sale (some "sale")) spring, pair.1 ≠ "fc" := by decide
  subst hnothing
  rw [halike.fc rfl hleft hbound]

/-- The friendly URL and the URL in query form that are built from some parameters lead to
different controllers, and only one of them into a module. -/
def UrlsDiffer (t : Template) (params : Params) : Prop :=
  ∃ (s : Snapshot) (handle : Handle) (friendlyUrl queryUrl : String) (friendly query : RouteMatch),
    s.settings.templatedRouting = true ∧ s.table.Built ∧ handle.route.template = t ∧
    s.table.get? ⟨1, 1⟩ t.routeId = some handle ∧ EntityKind.ofRouteId? t.routeId = none ∧
    (s.build ⟨1, 1⟩ t.routeId params true "").outcome = .ok friendlyUrl ∧
    (s.build ⟨1, 1⟩ t.routeId params false "").outcome = .ok queryUrl ∧
    (s.resolve (s.request friendlyUrl ⟨1, 1⟩)).outcome = .ok (.matched friendly) ∧
    friendly.source = .route ∧ friendly.routeId = t.routeId ∧
    (s.resolve (s.request queryUrl ⟨1, 1⟩)).outcome = .ok (.matched query) ∧
    query.source = .explicit ∧
    friendly.controller ≠ query.controller ∧ friendly.moduleDispatch ≠ query.moduleDispatch

/-- The match that the friendly URL of the sale leads to, which no part of its pattern bears on. -/
def saleMatch (target : Option String) : RouteMatch :=
  Resolve.routeMatch .initial ⟨sale target, ⟨"", .empty⟩, []⟩ [] none

theorem urlsDiffer_sale {target : Option String} {name : String}
    (hmay : (sale target).mayMatch = true) (hplain : params.contains "controller" = false)
    (hget : (Build.queryParams (sale target) ⟨1, 1⟩ params false).get? "controller" = some name)
    (hvalid : Request.isControllerName name.toList = true)
    (hcontroller : (saleMatch target).controller ≠ Request.controllerName name)
    (hmodule : (saleMatch target).moduleDispatch ≠
      ((Build.queryParams (sale target) ⟨1, 1⟩ params false).get? "fc" == some "module")) :
    UrlsDiffer (sale target) params := by
  obtain ⟨regex, hcompile, hcaptures⟩ := compile_sale target
  let r : Route := ⟨sale target, regex, [.literal "sale"]⟩
  have hsale : IsSale r := ⟨rfl, rfl, hmay, hcaptures⟩
  have hcanonical : EntityKind.ofRouteId? r.routeId = none := rfl
  have hbuilt : (ofRoute r).table.Built := @built_ofRoute r hcompile
  have hbuild := build_ofRoute hcanonical (missingKeyword?_sale hsale params)
  have hfriendly := resolve_sale hsale hplain
  have hquery := (explicitMatch?_urlOf (ofRoute r) ⟨1, 1⟩ r params).trans
    (Build.queryMatch?_of_name hget hvalid)
  exact ⟨ofRoute r, ⟨r, none⟩, _, _, _, _, rfl, hbuilt, rfl, get?_ofRoute r, hcanonical,
    hbuild true, hbuild false, hfriendly, rfl, rfl, resolve_of_explicit hquery, rfl, hcontroller,
    hmodule⟩

/-- A value for the keyword that the rule has no place for, and a parameter that asks for a
module. -/
def cartModule : Params := .ofList [("kind", "cart"), ("fc", "module")]

/-- The query says what the friendly form leaves out: the value of a keyword without a place in the
rule, and that a module is asked for. A friendly form leads into the module that its target
names, and the query does not. -/
theorem resolve_urls_differ :
    UrlsDiffer (sale none) cartModule ∧ UrlsDiffer (sale (some "module-blog-post")) .empty := by
  constructor
  · exact @urlsDiffer_sale _ _ "cart" (by decide) (by decide) (by decide) (by decide) (by decide)
      (by decide)
  · exact @urlsDiffer_sale _ _ "module-blog-post" (by decide) (by decide) (by decide) (by decide)
      (by decide) (by decide)

end Snapshot

end Waymark
