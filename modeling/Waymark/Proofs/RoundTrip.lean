import Waymark.Proofs.Route.Substitution
import Waymark.Proofs.Stages
import Waymark.Proofs.Table

/-! # Building a URL and resolving it again

A friendly URL that is built from a route is a path with what is left of the parameters as its
query. Resolved again, the query names no controller, the path comes into normal form by a slash
in front, and if no route is in the way it is the route itself that matches. What it captures
are values that make up the same path, and where a path can be read in one way only, these are
the values that the URL was built from.
-/

namespace Waymark

open Rule

/-! ## The built URL -/

/-- A URL without a query names no controller. -/
theorem Resolve.explicitMatch?_of_not_mem {url : String} (h : '?' ∉ url.toList) :
    explicitMatch? url = none := by
  rw [explicitMatch?, Request.rawQuery?_of_not_mem h, Option.bind_none]

namespace Build

variable {r : Route} {params : Params}

theorem missingKeyword?_eq_none (h : ∀ p ∈ r.placeholders, p.Filled params) :
    missingKeyword? r params = none := by
  rw [missingKeyword?_eq_none_iff]
  exact fun p hp => (h p hp).not_missing

theorem toList_withQuery (base query : String) : (base ++ "?" ++ query).toList =
    base.toList ++ '?' :: query.toList := by
  rw [String.toList_append, String.toList_append, List.append_assoc]
  rfl

/-- The path of a friendly URL, as a request for it is read. -/
theorem rawPath_templatedUrl (h : '?' ∉ (pathText r.segments params).toList) :
    Request.rawPath (templatedUrl r params).toList = (pathText r.segments params).toList := by
  unfold templatedUrl withQuery
  split
  next => exact Request.rawPath_of_not_mem h
  next =>
    rw [toList_withQuery]
    exact Request.rawPath_append h _

theorem parse_queryText (pairs : List (String × String)) :
    Text.Form.parse (queryText pairs).toList = pairs.map fun p => (p.1.toList, p.2.toList) := by
  rw [queryText, String.toList_ofList, Text.Form.parse_render]

/-- A query names a controller only by a parameter of that name. -/
theorem explicitController?_queryText {pairs : List (String × String)}
    (h : ∀ pair ∈ pairs, pair.1 ≠ "controller") :
    Request.explicitController? (queryText pairs).toList = none := by
  have hnone : (Text.Form.parse (queryText pairs).toList).find?
      (fun pair => pair.1 = "controller".toList) = none := by
    rw [parse_queryText, List.find?_eq_none]
    intro pair hpair hname
    obtain ⟨entry, hentry, rfl⟩ := List.mem_map.mp hpair
    exact h entry hentry (String.toList_inj.mp (of_decide_eq_true hname))
  unfold Request.explicitController?
  rw [hnone]

/-- No left-over parameter is named `controller` if none but a keyword is. -/
theorem ne_controller_of_mem_leftovers {t : Template}
    (h : params.contains "controller" = true → t.keywords.contains "controller" = true)
    {pair : String × String} (hpair : pair ∈ (leftovers t params).entries) :
    pair.1 ≠ "controller" := by
  intro hname
  obtain ⟨hmem, hkeyword⟩ := List.mem_filter.mp hpair
  have hpresent : params.contains pair.1 = true :=
    OrderedMap.contains_iff.mpr (List.mem_map.mpr ⟨pair, hmem, rfl⟩)
  rw [hname] at hpresent hkeyword
  simp [h hpresent] at hkeyword

theorem explicitMatch?_templatedUrl (h : '?' ∉ (pathText r.segments params).toList)
    (hcontroller : params.contains "controller" = true →
      r.template.keywords.contains "controller" = true) :
    Resolve.explicitMatch? (templatedUrl r params) = none := by
  unfold templatedUrl withQuery
  split
  next => exact Resolve.explicitMatch?_of_not_mem h
  next =>
    rw [Resolve.explicitMatch?, toList_withQuery, Request.rawQuery?_append h, Option.bind_some,
      explicitController?_queryText fun _ => ne_controller_of_mem_leftovers hcontroller,
      Option.map_none]

end Build

/-! ## The way back -/

namespace Resolve

variable {table : Table} {entities : EntityResolver} {settings : Settings} {scope : Scope}
  {text : List Char}

theorem entityPath_slash {path : String} (h : path.toList.head? ≠ some '/') :
    entityPath ⟨"/" ++ path, none, false⟩ = path := by
  unfold entityPath
  dsimp only
  rw [Request.toList_slash, List.dropWhile_cons_of_pos (by simp)]
  cases htext : path.toList with
  | nil => exact (String.toList_eq_nil_iff.mp htext).symm
  | cons c rest =>
      have hne : c ≠ '/' := by
        rintro rfl
        exact h (by rw [htext]; rfl)
      rw [List.dropWhile_cons_of_neg (by simpa using hne), ← htext, String.ofList_toList]

/-- A path that is no static asset's is left to the entity resolver and the routes. -/
theorem resolvePath_slash {path : String} (hasset : Request.isStaticAsset path = false) :
    resolvePath table entities settings scope ⟨"/" ++ path, none, false⟩ = (do
      match ← lookupEntity entities ⟨"/" ++ path, none, false⟩ scope with
      | some found => pure (.matched found)
      | none => pure (ofMatch? (scan settings ⟨"/" ++ path, none, false⟩ (table.routes scope)))) := by
  unfold resolvePath
  dsimp only
  rw [Request.isStaticAsset_slash, hasset, if_neg Bool.false_ne_true]
  exact if_neg (not_or.mpr ⟨Request.slash_ne_empty path, Bool.false_ne_true⟩)

theorem lookupEntity_eq_none {path : String} (hpath : Request.Relative path.toList)
    (hunknown : entities.lookup path scope = .ok none) :
    lookupEntity entities ⟨"/" ++ path, none, false⟩ scope = ⟨[.lookup path scope], .ok none⟩ := by
  have hentity := entityPath_slash hpath.front
  rw [← hentity] at hunknown
  rw [lookupEntity_of_none (by rw [hentity]; exact hpath.ne_empty) hunknown, hentity]

/-- A relative path that is no entity's is left to the routes. -/
theorem resolvePath_eq {path : String} (hpath : Request.Relative path.toList)
    (hasset : Request.isStaticAsset path = false)
    (hunknown : entities.lookup path scope = .ok none) :
    resolvePath table entities settings scope ⟨"/" ++ path, none, false⟩ =
      ⟨[.lookup path scope],
        .ok (ofMatch? (scan settings ⟨"/" ++ path, none, false⟩ (table.routes scope)))⟩ := by
  rw [resolvePath_slash hasset, lookupEntity_eq_none hpath hunknown]
  rfl

/-- The first route in order that may match a path and does gives the match. -/
theorem scan_eq {n : Request.NormalizedPath} {before after : List Handle} {handle : Handle}
    {captures : List (String × String)}
    (hbefore : ∀ other ∈ before, other.route.template.mayMatch = true →
      other.route.captures n.path = none)
    (heligible : handle.route.template.mayMatch = true)
    (hcaptures : handle.route.captures n.path = some captures) :
    scan settings n (before ++ handle :: after) =
      some (routeMatch settings handle.route captures n.localeCode) := by
  have htakes : handle.route.Takes n.path :=
    ⟨Template.mayMatch_eq_true.mp heligible, by rw [hcaptures]; rfl⟩
  refine scan_eq_some_iff.mpr ⟨handle, ⟨htakes, before, after, rfl, ?_⟩,
    tryRoute_eq_some.mpr ⟨heligible, captures, hcaptures, rfl⟩⟩
  rintro other hother ⟨hmay, haccepts⟩
  rw [hbefore other hother (Template.mayMatch_eq_true.mpr hmay)] at haccepts
  cases haccepts

end Resolve

/-! ## There and back -/

namespace Snapshot

/-- What has to hold of a snapshot and of some parameters for a URL that is built from a route to
lead back to the route. -/
structure Returns (s : Snapshot) (scope : Scope) (handle : Handle) (params : Params) : Prop where
  templated : s.settings.templatedRouting = true
  oneLocale : s.settings.multiLocale = false
  mounted : ∀ base, s.baseUris.get? scope.tenant = some base →
    base = "" ∨ base.toList.head? = some '/'
  notCanonical : EntityKind.ofRouteId? handle.route.routeId = none
  eligible : handle.route.template.mayMatch = true
  standalone : ∀ p ∈ handle.route.placeholders, p.spec.Standalone
  filled : ∀ p ∈ handle.route.placeholders, p.Filled params
  controller : params.contains "controller" = true →
    handle.route.template.keywords.contains "controller" = true
  relative : Request.Relative (Build.pathText handle.route.segments params).toList
  notScript : Build.pathText handle.route.segments params ≠ Build.frontScript
  notAsset : Request.isStaticAsset (Build.pathText handle.route.segments params) = false
  unknown : s.entities.lookup (Build.pathText handle.route.segments params) scope = .ok none
  /-- No route before this one accepts the path. -/
  first : ∀ before after, s.table.routes scope = before ++ handle :: after →
    ∀ other ∈ before, other.route.template.mayMatch = true →
      other.route.captures ("/" ++ Build.pathText handle.route.segments params) = none

/-- A match recovers what a URL was built from: it is for the same route, with values that make
up the same path, and if these are the only ones that do, they are those of the parameters. -/
structure Recovers (s : Snapshot) (r : Route) (params : Params) (found : RouteMatch) : Prop where
  routeId : found.routeId = r.routeId
  source : found.source = .route
  localeCode : found.localeCode = none
  decomposes : ∃ captures,
    Decomposes r.segments (Build.pathText r.segments params).toList captures ∧
      found = Resolve.routeMatch s.settings r captures none
  supplied : (∀ captures, Decomposes r.segments (Build.pathText r.segments params).toList captures →
      captures = supplied r.segments params) →
    found = Resolve.routeMatch s.settings r (supplied r.segments params) none

variable {s : Snapshot} {scope : Scope} {handle : Handle} {params : Params}

theorem build_eq (hmem : s.table.get? scope handle.route.routeId = some handle)
    (h : s.Returns scope handle params) :
    (s.build scope handle.route.routeId params true "").outcome =
      .ok (Build.templatedUrl handle.route params) := by
  unfold build buildUrl
  rw [hmem]
  dsimp only
  unfold Build.knownUrl
  rw [if_pos rfl, h.notCanonical]
  dsimp only
  rw [Build.missingKeyword?_eq_none h.filled, if_pos rfl]
  exact congrArg Except.ok String.append_empty

/-- Below its mount point a relative path has a slash in front. -/
theorem normalize_mounted {path url : String}
    (hmounted : ∀ base, s.baseUris.get? scope.tenant = some base →
      base = "" ∨ base.toList.head? = some '/')
    (hpath : Request.Relative path.toList) (hraw : Request.rawPath url.toList = path.toList)
    (hscript : path ≠ Build.frontScript) :
    Request.normalize url ((s.baseUris.get? scope.tenant).getD "/") false =
      ⟨"/" ++ path, none, false⟩ := by
  refine Request.normalize_relative hpath hraw ?_ hscript
  cases hget : s.baseUris.get? scope.tenant with
  | none => exact .inr rfl
  | some base =>
      rcases hmounted base hget with rfl | hbase
      · exact .inl rfl
      · exact .inr hbase

theorem normalize_eq (h : s.Returns scope handle params) :
    Request.normalize (Build.templatedUrl handle.route params)
        ((s.baseUris.get? scope.tenant).getD "/") false =
      ⟨"/" ++ Build.pathText handle.route.segments params, none, false⟩ :=
  normalize_mounted h.mounted h.relative (Build.rawPath_templatedUrl h.relative.query) h.notScript

/-- Nothing but the routes answers a request for a built URL. -/
theorem resolve_templatedUrl (h : s.Returns scope handle params) :
    (s.resolve (s.request (Build.templatedUrl handle.route params) scope)).outcome =
      .ok (Resolve.ofMatch? (Resolve.scan s.settings
        ⟨"/" ++ Build.pathText handle.route.segments params, none, false⟩
        (s.table.routes scope))) := by
  unfold resolve Waymark.resolve request
  dsimp only
  -- no stage before the routes answers
  rw [Build.explicitMatch?_templatedUrl h.relative.query h.controller]
  dsimp only
  rw [h.templated, h.oneLocale, if_pos rfl, normalize_eq h,
    Resolve.resolvePath_eq h.relative h.notAsset h.unknown]

theorem resolve_eq (hmem : handle ∈ s.table.routes scope) (h : s.Returns scope handle params)
    {captures : List (String × String)}
    (hcaptures : handle.route.captures ("/" ++ Build.pathText handle.route.segments params) =
      some captures) :
    (s.resolve (s.request (Build.templatedUrl handle.route params) scope)).outcome =
      .ok (.matched (Resolve.routeMatch s.settings handle.route captures none)) := by
  obtain ⟨before, after, hroutes⟩ := List.append_of_mem hmem
  have hscan := @Resolve.scan_eq s.settings
    ⟨"/" ++ Build.pathText handle.route.segments params, none, false⟩ before after handle captures
    (h.first before after hroutes) h.eligible hcaptures
  rw [resolve_templatedUrl h, hroutes, hscan]
  rfl

theorem mem_routes {table : Table} {routeId : String}
    (hget : table.get? scope routeId = some handle) : handle ∈ table.routes scope :=
  Table.mem_routes_iff.mpr ⟨routeId, hget⟩

/-- Building a URL from a route succeeds, and the URL resolves to a match that recovers what it
was built from. -/
theorem resolve_build {routeId : String} (hbuilt : s.table.Built)
    (hget : s.table.get? scope routeId = some handle) (h : s.Returns scope handle params)
    (hparams : ∀ p ∈ handle.route.placeholders, ∀ param, p.spec.param = some param →
      '>' ∉ param.toList) :
    (s.build scope routeId params true "").outcome =
        .ok (Build.templatedUrl handle.route params) ∧
      ∃ found, (s.resolve (s.request (Build.templatedUrl handle.route params) scope)).outcome =
          .ok (.matched found) ∧
        s.Recovers handle.route params found := by
  obtain ⟨rfl, hcompile⟩ := hbuilt.spec hget
  have hkeywords : ∀ p ∈ handle.route.placeholders, p.spec.SelfContained := fun p hp =>
    (h.standalone p hp).selfContained (hparams p hp)
  have hsegments := Route.selfContained_of_placeholders hkeywords
  have hnames := fun p hp => (h.standalone p hp).groupNames_tree
  -- the supplied values decompose the path, so the matcher accepts it
  have haccepted := (Route.isSome_captures_iff hcompile hsegments
    ("/" ++ Build.pathText handle.route.segments params)).mpr
      ⟨_, _, Request.toList_slash _, decomposes_pathText h.filled⟩
  obtain ⟨captures, hcaptures⟩ := Option.isSome_iff_exists.mp haccepted
  -- what it captures is a decomposition again, though perhaps another one
  obtain ⟨rest, hrest, hdecomposes⟩ :=
    Route.decomposes_of_captures_eq hcompile hsegments hnames hcaptures
  rw [Request.toList_slash] at hrest
  cases hrest
  refine ⟨build_eq hget h, _, resolve_eq (mem_routes hget) h hcaptures, rfl, rfl, rfl,
    ⟨captures, hdecomposes, rfl⟩, ?_⟩
  intro hunique
  rw [hunique captures hdecomposes]

/-! ## Snapshots with one route -/

/-- A snapshot with one route and no entities. -/
def ofRoute (r : Route) : Snapshot where
  table := Table.empty.insert ⟨1, 1⟩ ⟨r, none⟩
  settings := .initial
  baseUris := .empty
  entities := .ofRecords []

variable {r : Route}

theorem get?_ofRoute (r : Route) :
    (ofRoute r).table.get? ⟨1, 1⟩ r.routeId = some ⟨r, none⟩ := by
  change OrderedMap.get? ((Table.empty.insert ⟨1, 1⟩ ⟨r, none⟩).bucket ⟨1, 1⟩) r.routeId = _
  rw [Table.bucket_insert, if_pos rfl, OrderedMap.get?_insert, if_pos rfl]

theorem routes_ofRoute (r : Route) : (ofRoute r).table.routes ⟨1, 1⟩ = [⟨r, none⟩] := by
  have hvalues : ((ofRoute r).table.bucket ⟨1, 1⟩).values = [⟨r, none⟩] := rfl
  unfold Table.routes
  dsimp only
  rw [hvalues]
  cases hempty : r.isEmptyRule with
  | true => simp [hempty]
  | false => simp [hempty]

theorem built_ofRoute (h : Route.compile r.template = .ok r) : (ofRoute r).table.Built :=
  .insert ⟨1, 1⟩ .empty (Route.isCompiled_of_compile h)

/-- Nothing is in the way of the only route. -/
theorem returns_ofRoute (hcanonical : EntityKind.ofRouteId? r.routeId = none)
    (heligible : r.template.mayMatch = true) (hstandalone : ∀ p ∈ r.placeholders, p.spec.Standalone)
    (hfilled : ∀ p ∈ r.placeholders, p.Filled params)
    (hcontroller : params.contains "controller" = false) {path : String}
    (hpath : Build.pathText r.segments params = path) (hrelative : Request.Relative path.toList)
    (hscript : path ≠ Build.frontScript) (hasset : Request.isStaticAsset path = false) :
    (ofRoute r).Returns ⟨1, 1⟩ ⟨r, none⟩ params := by
  subst hpath
  refine ⟨rfl, rfl, nofun, hcanonical, heligible, hstandalone, hfilled, ?_, hrelative, hscript,
    hasset, rfl, ?_⟩
  · rw [hcontroller]
    nofun
  · intro before after hroutes other hother
    rw [routes_ofRoute, eq_comm, List.append_eq_singleton_iff] at hroutes
    rcases hroutes with ⟨rfl, -⟩ | ⟨-, hafter⟩
    · cases hother
    · cases hafter

theorem standalone_pageNumber : Route.pageNumber.spec.Standalone :=
  ⟨⟨_, rfl, rfl, rfl⟩, ⟨_, Route.compile_digits⟩⟩

/-- The seventh page, with a parameter that has no place in the path. -/
def seventhPage : Params := .ofList [("id", "7"), ("print", "a & b")]

theorem filled_seventhPage : Route.pageNumber.Filled seventhPage :=
  @Placeholder.filled_of_mem _ _ "7" _ rfl (by decide) Route.compile_digits
    (Pattern.Expr.singleton_mem_language rfl nofun)

theorem resolve_build_seventhPage :
    ∃ r found, r.template = Route.numberedPage ∧
      ((ofRoute r).build ⟨1, 1⟩ r.routeId seventhPage true "").outcome =
        .ok (Build.templatedUrl r seventhPage) ∧
      ((ofRoute r).resolve ((ofRoute r).request (Build.templatedUrl r seventhPage)
        ⟨1, 1⟩)).outcome = .ok (.matched found) ∧
      (ofRoute r).Recovers r seventhPage found := by
  obtain ⟨regex, hcompile⟩ := Route.compile_numberedPage
  let r : Route := ⟨Route.numberedPage, regex, [.placeholder Route.pageNumber, .literal ".html"]⟩
  have honly : ∀ p ∈ r.placeholders, p = Route.pageNumber := fun p hp => List.mem_singleton.mp hp
  have hpath : Build.pathText r.segments seventhPage = "7.html" := by
    change Build.pathText [.placeholder Route.pageNumber, .literal ".html"] seventhPage = _
    decide
  have hrelative : Request.Relative "7.html".toList :=
    ⟨by decide, by decide, by decide, by decide, by decide⟩
  have hreturns : (ofRoute r).Returns ⟨1, 1⟩ ⟨r, none⟩ seventhPage := by
    refine returns_ofRoute rfl rfl ?_ ?_ rfl hpath hrelative (by decide) (by decide)
    · intro p hp
      rw [honly p hp]
      exact standalone_pageNumber
    · intro p hp
      rw [honly p hp]
      exact filled_seventhPage
  have hparams : ∀ p ∈ r.placeholders, ∀ param, p.spec.param = some param →
      '>' ∉ param.toList := by
    intro p hp param hparam
    rw [honly p hp] at hparam
    cases hparam
    decide
  have hbuilt : (ofRoute r).table.Built := @built_ofRoute r hcompile
  obtain ⟨hbuild, found, hresolve, hrecovers⟩ :=
    resolve_build hbuilt (get?_ofRoute r) hreturns hparams
  exact ⟨r, found, rfl, hbuild, hresolve, hrecovers⟩

/-- A keyword whose parameter has a name that ends the name of its group, so that what is left of
the name is a literal in the group. -/
def openName : Placeholder := ⟨"id", ⟨"[a-z]+", some "_>"⟩, "", ""⟩

/-- A route with such a keyword. -/
def openRoute : Template :=
  (Template.plain "letters" "p{id}" (some "letters")).withKeyword "id" ⟨"[a-z]+", some "_>"⟩

def letterA : Params := .ofList [("id", "a")]

theorem compile_openRoute : ∃ regex,
    Route.compile openRoute = .ok ⟨openRoute, regex, [.literal "p", .placeholder openName]⟩ ∧
      regex.captures "/pa" = none := by
  have hpieces : Piece.ofRule 0 openRoute.rule.toList =
      .ok [.literal "p".toList, .token "id".toList 1] :=
    @Piece.ofRule_token "p".toList "id".toList [] 0 _ (by decide) (by decide)
      (Piece.ofRule_of_braceless (by decide))
  have hsegments : Rule.segments openRoute = .ok [.literal "p", .placeholder openName] :=
    segments_of_pieces hpieces
  exact ⟨_, Route.compile_of_reads hsegments rfl rfl (by decide), rfl⟩

theorem compile_letters : Pattern.Regex.compile "[a-z]+" =
    .ok ⟨"[a-z]+", .repeated (.one (.range 'a' 'z')) 1 none true⟩ := by
  rfl

theorem standalone_openName : openName.spec.Standalone :=
  ⟨⟨_, rfl, rfl, rfl⟩, ⟨_, compile_letters⟩⟩

theorem filled_letterA : openName.Filled letterA :=
  @Placeholder.filled_of_mem _ _ "a" _ rfl (by decide) compile_letters
    (Pattern.Expr.singleton_mem_language rfl nofun)

/-- The way back is lost when a parameter's name ends the name of its group early. -/
theorem resolve_build_openRoute :
    ∃ (s : Snapshot) (handle : Handle) (url : String), s.table.Built ∧
      s.table.get? ⟨1, 1⟩ "letters" = some handle ∧
      s.Returns ⟨1, 1⟩ handle letterA ∧
      (s.build ⟨1, 1⟩ "letters" letterA true "").outcome = .ok url ∧
      (s.resolve (s.request url ⟨1, 1⟩)).outcome = .ok .notFound := by
  obtain ⟨regex, hcompile, hcaptures⟩ := compile_openRoute
  let r : Route := ⟨openRoute, regex, [.literal "p", .placeholder openName]⟩
  have honly : ∀ p ∈ r.placeholders, p = openName := fun p hp => List.mem_singleton.mp hp
  have hpath : Build.pathText r.segments letterA = "pa" := by
    change Build.pathText [.literal "p", .placeholder openName] letterA = _
    decide
  have hrelative : Request.Relative "pa".toList :=
    ⟨by decide, by decide, by decide, by decide, by decide⟩
  have hreturns : (ofRoute r).Returns ⟨1, 1⟩ ⟨r, none⟩ letterA := by
    refine returns_ofRoute rfl rfl ?_ ?_ rfl hpath hrelative (by decide) (by decide)
    · intro p hp
      rw [honly p hp]
      exact standalone_openName
    · intro p hp
      rw [honly p hp]
      exact filled_letterA
  have hscan : Resolve.scan (ofRoute r).settings
      ⟨"/" ++ Build.pathText r.segments letterA, none, false⟩
      ((ofRoute r).table.routes ⟨1, 1⟩) = none := by
    unfold Resolve.scan
    rw [routes_ofRoute, hpath, List.findSome?_eq_none_iff]
    intro handle hhandle
    rw [List.mem_singleton.mp hhandle]
    unfold Resolve.tryRoute
    rw [show r.captures ("/" ++ "pa") = none from hcaptures, Option.map_none, ite_self]
  have hbuilt : (ofRoute r).table.Built := @built_ofRoute r hcompile
  refine ⟨ofRoute r, ⟨r, none⟩, _, hbuilt, get?_ofRoute r, hreturns,
    build_eq (get?_ofRoute r) hreturns, ?_⟩
  rw [resolve_templatedUrl hreturns, hscan]
  rfl

end Snapshot

end Waymark
