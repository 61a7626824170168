import Waymark.Proofs.EntityUrl
import Waymark.Proofs.Load.Complete
import Waymark.Proofs.Load.Origin
import Waymark.Proofs.Priority
import Waymark.Proofs.Route.Literal

/-! # The pages of a configuration

The URL of a page is the rule of a route without keywords, so its matcher accepts the URL behind a
slash and nothing else. Of the routes of its scope only a family can come before it. A page whose
id is the target of content entities is left to the entity resolver and never matches.
-/

namespace Waymark

/-! ## Requests for relative paths -/

/-- A request for a relative path that is no entity's reaches the routes. -/
theorem Snapshot.reachesRoutes {s : Snapshot} {scope : Scope} {url : String}
    (htemplated : s.settings.templatedRouting = true) (hlocale : s.settings.multiLocale = false)
    (hmounted : ∀ base, s.baseUris.get? scope.tenant = some base →
      base = "" ∨ base.toList.head? = some '/')
    (hurl : Request.IsPath url) (hrelative : Request.Relative url.toList)
    (hunknown : s.entities.lookup url scope = .ok none) :
    (s.request url scope).normalized = ⟨"/" ++ url, none, false⟩ ∧
      Resolve.ReachesRoutes s.entities (s.request url scope) := by
  have hnormalized : (s.request url scope).normalized = ⟨"/" ++ url, none, false⟩ := by
    unfold RequestContext.normalized request
    dsimp only
    rw [hlocale]
    exact normalize_mounted hmounted hrelative (Request.rawPath_of_not_mem hurl.query)
      hurl.notScript
  refine ⟨hnormalized, Resolve.explicitMatch?_of_not_mem hurl.query, htemplated, ?_, ?_, ?_, ?_⟩
  all_goals rw [hnormalized]
  · exact (Request.isStaticAsset_slash url).trans hurl.notAsset
  · exact Request.slash_ne_empty url
  · exact congrArg Traced.outcome (Resolve.lookupEntity_eq_none hrelative hunknown)

/-! ## The routes of a scope -/

namespace PageConfig

/-- A page is for a scope: for its locale, and for its tenant or for all. -/
def IsFor (p : PageConfig) (scope : Scope) : Prop :=
  Config.appliesTo p.tenant scope.tenant = true ∧ p.locale = scope.locale

end PageConfig

namespace Config

variable {config : Config} {scope : Scope}

theorem mem_pages (htemplated : config.settings.templatedRouting = true) {t : Template} :
    t ∈ (config.answers.pages scope).map PageRoute.toTemplate ↔
      ∃ p ∈ config.pages, p.IsFor scope ∧ p.url ≠ "" ∧ t = pageTemplate p := by
  have hmem : ∀ q, q ∈ config.answers.pages scope ↔
      ∃ p ∈ config.pages, p.IsFor scope ∧ p.url ≠ "" ∧ q = ⟨p.page, p.locale, p.url⟩ := by
    intro q
    unfold Answers.pages Plan.sortPages
    rw [List.mem_mergeSort, List.mem_filter]
    simp only [answers, htemplated, if_true, Provider.pagesOf, List.mem_map, List.mem_filter,
      Plan.isServed, Bool.and_eq_true, decide_eq_true_eq, bne_iff_ne, PageConfig.IsFor]
    constructor
    · rintro ⟨⟨p, ⟨hp, happlies⟩, rfl⟩, hlocale, hurl⟩
      exact ⟨p, hp, ⟨happlies, hlocale⟩, hurl, rfl⟩
    · rintro ⟨p, hp, ⟨happlies, hlocale⟩, hurl, rfl⟩
      exact ⟨⟨p, ⟨hp, happlies⟩, rfl⟩, hlocale, hurl⟩
  rw [List.mem_map]
  constructor
  · rintro ⟨q, hq, rfl⟩
    obtain ⟨p, hp, hfor, hurl, rfl⟩ := (hmem q).mp hq
    exact ⟨p, hp, hfor, hurl, rfl⟩
  · rintro ⟨p, hp, hfor, hurl, rfl⟩
    exact ⟨_, (hmem _).mpr ⟨p, hp, hfor, hurl, rfl⟩, rfl⟩

theorem contains_families_of_mem_values {tenant : TenantId} (h : config.Valid) {t : Template}
    (ht : t ∈ (config.answers.families tenant).values) :
    config.families.contains t.routeId = true := by
  obtain ⟨entry, hentry, rfl⟩ := List.mem_map.mp ht
  rw [families_eq h tenant, OrderedMap.contains_iff, Answers.routeId_of_mem_families hentry]
  exact List.mem_map_of_mem hentry

/-- The templates of a scope are families, with or without a custom rule, and pages. -/
theorem mem_templates (h : config.Valid) (htemplated : config.settings.templatedRouting = true)
    {t : Template} (ht : t ∈ config.answers.templates scope) :
    config.families.contains t.routeId = true ∨
      ∃ p ∈ config.pages, p.IsFor scope ∧ t = pageTemplate p := by
  rcases List.mem_append.mp ht with ht | hcustom
  · rcases List.mem_append.mp ht with hfamily | hpage
    · exact .inl (contains_families_of_mem_values h hfamily)
    · obtain ⟨p, hp, hfor, -, heq⟩ := (mem_pages htemplated).mp hpage
      exact .inr ⟨p, hp, hfor, heq⟩
  · obtain ⟨entry, hentry, hsuited⟩ := List.mem_filterMap.mp hcustom
    rw [Answers.suited?_routeId hsuited]
    exact .inl (contains_families_of_mem_values h (List.mem_map_of_mem hentry))

/-- The table that a configuration is loaded into. -/
def table (config : Config) : Table :=
  ((LoadState.initial .empty).applyAll config.answers.steps).table

theorem built_table (config : Config) : config.table.Built :=
  LoadState.built_applyAll .empty CompileCache.explained_empty _

/-- The snapshot that a configuration is loaded into. -/
def snapshot (config : Config) : Snapshot :=
  ⟨config.table, config.settings, config.baseUris, .ofRecords config.entities⟩

/-- No two templates that are built for a tenant have the same fingerprint. -/
def MarksApart (config : Config) (tenant : TenantId) : Prop :=
  ∀ t ∈ config.answers.built tenant, ∀ t' ∈ config.answers.built tenant,
    t.fingerprint = t'.fingerprint → t = t'

/-- A page of an accepted configuration that a tenant at the root serves in a locale under a URL of
its own: no other page that is for the scope has its id or its URL, no family has its id, and no
entity has its URL. -/
structure Offers (config : Config) (tenant : TenantConfig) (locale : LocaleId)
    (page : PageConfig) : Prop where
  accepted : config.validate = .ok ()
  templated : config.settings.templatedRouting = true
  oneLocale : config.settings.multiLocale = false
  tenant_mem : tenant ∈ config.tenants
  atRoot : tenant.baseUri = "/"
  locale_mem : locale ∈ tenant.locales
  page_mem : page ∈ config.pages
  isFor : page.IsFor ⟨tenant.id, locale⟩
  alone : ∀ other ∈ config.pages, other.IsFor ⟨tenant.id, locale⟩ →
    other.page = page.page ∨ other.url = page.url → other = page
  notFamily : config.families.contains page.page = false
  notIndex : page.page ≠ Families.indexId
  isPath : Request.IsPath page.url
  unclaimed : ∀ r ∈ config.entities, r.isAt page.url ⟨tenant.id, locale⟩ = false

namespace Offers

variable {tenant : TenantConfig} {locale : LocaleId} {page : PageConfig}

theorem valid (h : config.Offers tenant locale page) : config.Valid := validate_eq_ok.mp h.accepted

theorem mounted (h : config.Offers tenant locale page) {base : String}
    (hbase : config.baseUris.get? tenant.id = some base) : base = "/" := by
  rcases OrderedMap.mem_of_mem_insertAll (OrderedMap.mem_of_get? hbase) with hnone | hentry
  · cases hnone
  · obtain ⟨id, -, hentry⟩ := List.mem_map.mp hentry
    cases hentry
    rw [tenant?_of_mem h.valid h.tenant_mem]
    exact h.atRoot

theorem unknown (h : config.Offers tenant locale page) :
    config.snapshot.entities.lookup page.url ⟨tenant.id, locale⟩ = .ok none := by
  have hnone : config.entities.find? (·.isAt page.url ⟨tenant.id, locale⟩) = none :=
    List.find?_eq_none.mpr fun r hr => by rw [h.unclaimed r hr]; exact Bool.false_ne_true
  change Except.ok _ = _
  rw [hnone]
  rfl

/-- The route of the page is made in the scope. -/
theorem mem_steps (h : config.Offers tenant locale page) :
    .add ⟨tenant.id, locale⟩ (pageTemplate page) ∈ config.answers.steps := by
  have hlocales : config.answers.locales tenant.id = tenant.locales := by
    simp [answers, tenant?_of_mem h.valid h.tenant_mem]
  obtain ⟨q, hq, htemplate⟩ := List.mem_map.mp
    ((mem_pages h.templated).mpr ⟨page, h.page_mem, h.isFor, h.isPath.nonempty, rfl⟩)
  refine List.mem_flatMap.mpr ⟨tenant.id, List.mem_map_of_mem h.tenant_mem,
    List.mem_append_left _ ?_⟩
  rw [hlocales]
  refine List.mem_flatMap.mpr ⟨locale, h.locale_mem, List.mem_append_left _
    (List.mem_append_left _ (List.mem_append_right _ ?_))⟩
  rw [← htemplate]
  exact List.mem_map_of_mem hq

/-- A template with the id of the page is the page's own. -/
theorem eq_of_mem_templates (h : config.Offers tenant locale page) {t : Template}
    (ht : t ∈ config.answers.templates ⟨tenant.id, locale⟩) (hid : t.routeId = page.page) :
    t = pageTemplate page := by
  rcases mem_templates h.valid h.templated ht with hfamily | ⟨p, hp, hfor, rfl⟩
  · rw [hid, h.notFamily] at hfamily
    cases hfamily
  · rw [h.alone p hp hfor (.inl hid)]

/-- The scope holds the route of the page. -/
theorem exists_get? (h : config.Offers tenant locale page) (hmarks : config.MarksApart tenant.id) :
    ∃ handle, config.table.get? ⟨tenant.id, locale⟩ page.page = some handle ∧
      Route.compile (pageTemplate page) = .ok handle.route := by
  obtain ⟨r, hcompile⟩ := h.valid.pages_compile page h.page_mem
  have hunique : ∀ step ∈ config.answers.steps, ∀ other,
      step.gives? ⟨tenant.id, locale⟩ page.page = some other → other = r := by
    intro step hstep other hgives
    obtain ⟨t, hsource, hid, hother⟩ := LoadStep.gives?_eq_some.mp hgives
    rcases Answers.mem_of_source? hstep hsource with ht | rfl
    · rw [h.eq_of_mem_templates ht hid, hcompile] at hother
      exact (Except.ok.inj hother).symm
    · exact absurd hid.symm h.notIndex
  have hroute := LoadState.get?_of_unique
    (fun t t' ht ht' hmark => hmarks t' ht' t ht hmark) (fun step => Answers.uses_of_mem_steps)
    ⟨_, h.mem_steps, LoadStep.gives?_eq_some.mpr ⟨_, if_pos rfl, rfl, hcompile⟩⟩ hunique
  rw [LoadState.routes, OrderedMap.get?_mapValues] at hroute
  obtain ⟨handle, hget, rfl⟩ := Option.map_eq_some_iff.mp hroute
  exact ⟨handle, hget, hcompile⟩

/-- Of the other routes of the scope only those of families may take the path of the page. -/
theorem family_of_takes (h : config.Offers tenant locale page)
    (hmarks : config.MarksApart tenant.id) {handle : Handle}
    (hmem : handle ∈ config.table.routes ⟨tenant.id, locale⟩)
    (htakes : (handle.route.captures ("/" ++ page.url)).isSome = true) :
    config.families.contains handle.route.routeId = true ∨
      handle.route.template = pageTemplate page := by
  obtain ⟨routeId, hget⟩ := Table.mem_routes_iff.mp hmem
  have hcompiled := (config.built_table.spec hget).2
  have hrule : handle.route.template.keywords = .empty →
      handle.route.template.rule = page.url := by
    intro hkeywords
    have hpath := (Route.isSome_captures_of_noKeywords hkeywords hcompiled _).mp htakes
    exact (String.append_right_inj "/" |>.mp hpath).symm
  rcases @Answers.template_of_mem_routes config.answers ⟨tenant.id, locale⟩ handle hmarks hmem
    with ht | hindex
  · rcases mem_templates h.valid h.templated ht with hfamily | ⟨p, hp, hfor, htemplate⟩
    · exact .inl hfamily
    · rw [htemplate] at hrule ⊢
      exact .inr (by rw [h.alone p hp hfor (.inr (hrule rfl))])
  · rw [hindex] at hrule
    exact absurd (hrule rfl).symm h.isPath.nonempty

end Offers

end Config

/-! ## From a page to its URL and back -/

namespace Config

variable {config : Config} {tenant : TenantConfig} {locale : LocaleId} {page : PageConfig}

/-- The families of content entities are among the families. -/
theorem contains_families_of_ofRouteId? {routeId : String} {kind : EntityKind}
    (h : EntityKind.ofRouteId? routeId = some kind) : config.families.contains routeId = true := by
  have hroute := EntityKind.ofRouteId?_eq_some.mp h
  have hbuiltIn : routeId ∈ (OrderedMap.ofList (Provider.familyMap Families.builtIn)).keys := by
    cases kind <;> cases hroute <;> decide +kernel
  rw [families, OrderedMap.contains_iff, OrderedMap.keys_insertAll]
  exact List.mem_append_left _ hbuiltIn

/-- The URL of a page is built without parameters. -/
theorem Offers.build_eq (h : config.Offers tenant locale page) {handle : Handle}
    (hget : config.table.get? ⟨tenant.id, locale⟩ page.page = some handle)
    (hcompile : Route.compile (pageTemplate page) = .ok handle.route) :
    (config.snapshot.build ⟨tenant.id, locale⟩ page.page .empty true "").outcome =
      .ok page.url := by
  have hcanonical : EntityKind.ofRouteId? page.page = none := by
    cases hkind : EntityKind.ofRouteId? page.page with
    | none => rfl
    | some kind =>
        have hfamily := @contains_families_of_ofRouteId? config _ kind hkind
        rw [h.notFamily] at hfamily
        cases hfamily
  have hmissing : Build.missingKeyword? handle.route .empty = none := by
    rw [Build.missingKeyword?, Route.placeholders_of_noKeywords rfl hcompile]
    rfl
  have hurl : Build.templatedUrl handle.route .empty = page.url := by
    rw [Build.templatedUrl, Build.pathText_of_noKeywords rfl hcompile]
    rfl
  have hknown : config.snapshot.table.get? ⟨tenant.id, locale⟩ page.page = some handle := hget
  unfold Snapshot.build buildUrl
  rw [hknown]
  dsimp only
  unfold Build.knownUrl
  rw [if_pos rfl, hcanonical]
  dsimp only
  rw [hmissing, if_pos rfl, hurl]
  exact congrArg Except.ok String.append_empty

/-- The request for the URL of a page is left to the routes of its scope. -/
theorem Offers.resolve_eq (h : config.Offers tenant locale page)
    (hrelative : Request.Relative page.url.toList) :
    (config.snapshot.resolve (config.snapshot.request page.url ⟨tenant.id, locale⟩)).outcome =
      .ok (Resolve.ofMatch? (Resolve.scan config.settings ⟨"/" ++ page.url, none, false⟩
        (config.table.routes ⟨tenant.id, locale⟩))) := by
  obtain ⟨hnormalized, hreaches⟩ := @Snapshot.reachesRoutes config.snapshot ⟨tenant.id, locale⟩
    page.url h.templated h.oneLocale (fun base hbase => .inr (by rw [h.mounted hbase]; rfl))
    h.isPath hrelative h.unknown
  have hresolve := @Resolve.resolve_of_reachesRoutes config.table _ config.settings _ hreaches
  rw [hnormalized] at hresolve
  exact hresolve

/-- No family of a scope takes a path. -/
def FamiliesPass (config : Config) (table : Table) (scope : Scope) (path : String) : Prop :=
  ∀ handle ∈ table.routes scope, config.families.contains handle.route.routeId = true →
    ¬ handle.route.Takes path

theorem FamiliesPass.of_captures {table : Table} {scope : Scope} {path : String}
    (h : ∀ handle ∈ table.routes scope, config.families.contains handle.route.routeId = true →
      handle.route.captures path = none) : config.FamiliesPass table scope path := by
  intro handle hmem hcontains htakes
  have haccepts := htakes.2
  rw [h handle hmem hcontains] at haccepts
  cases haccepts

theorem isEligible_pageTemplate :
    (pageTemplate page).IsEligible ↔ page.page ∉ Template.canonicalTargets := by
  constructor
  · rintro (htarget | ⟨hfc, -⟩)
    · exact htarget _ rfl
    · cases hfc
  · intro hne
    exact .inl fun target htarget => Option.some.inj htarget ▸ hne

/-- The first route that takes the path of a page is its own, if it is eligible. -/
theorem Offers.isFirst (h : config.Offers tenant locale page)
    (hmarks : config.MarksApart tenant.id)
    (hfamilies : config.FamiliesPass config.table ⟨tenant.id, locale⟩ ("/" ++ page.url))
    (heligible : page.page ∉ Template.canonicalTargets) {handle : Handle}
    (hget : config.table.get? ⟨tenant.id, locale⟩ page.page = some handle)
    (hcompile : Route.compile (pageTemplate page) = .ok handle.route) :
    handle.IsFirst ("/" ++ page.url) (config.table.routes ⟨tenant.id, locale⟩) := by
  have htemplate := (Route.compile_eq_ok hcompile).1
  have htakes : handle.route.Takes ("/" ++ page.url) := by
    refine ⟨?_, (Route.isSome_captures_of_noKeywords rfl hcompile _).mpr rfl⟩
    rw [htemplate]
    exact isEligible_pageTemplate.mpr heligible
  obtain ⟨before, after, hroutes, hnew⟩ :=
    List.eq_append_cons_of_mem (Table.mem_routes_iff.mpr ⟨_, hget⟩)
  refine ⟨htakes, before, after, hroutes, fun other hother hearlier => ?_⟩
  have hmem : other ∈ config.table.routes ⟨tenant.id, locale⟩ :=
    hroutes ▸ List.mem_append_left _ hother
  rcases h.family_of_takes hmarks hmem hearlier.2 with hfamily | hsame
  · exact hfamilies other hmem hfamily hearlier
  · -- the scope holds one route under the id of the page
    have hid : other.route.routeId = page.page := congrArg Template.routeId hsame
    have hother' := config.built_table.get?_of_mem_routes hmem
    rw [hid, hget] at hother'
    exact hnew (Option.some.inj hother' ▸ hother)

/-- If the id of a page is the target of content entities, no route takes the path of the page. -/
theorem Offers.scan_eq_none (h : config.Offers tenant locale page)
    (hmarks : config.MarksApart tenant.id)
    (hfamilies : config.FamiliesPass config.table ⟨tenant.id, locale⟩ ("/" ++ page.url))
    (hcanonical : page.page ∈ Template.canonicalTargets) :
    Resolve.scan config.settings ⟨"/" ++ page.url, none, false⟩
      (config.table.routes ⟨tenant.id, locale⟩) = none := by
  refine Resolve.scan_eq_none_iff.mpr fun handle hmem htakes => ?_
  rcases h.family_of_takes hmarks hmem htakes.2 with hfamily | hpage
  · exact hfamilies handle hmem hfamily htakes
  · have heligible := htakes.1
    rw [hpage] at heligible
    exact isEligible_pageTemplate.mp heligible hcanonical

end Config

theorem Registry.start_ofConfig (config : Config) : ∃ registry,
    (start (.ofConfig config) config.settings (.ofRecords config.entities)).outcome =
      .ok registry ∧ registry.current = config.snapshot := by
  unfold start
  rw [Config.load_ofConfig]
  exact ⟨_, rfl, rfl⟩

/-- A registry starts from the configuration of a page, and if no family takes the path of the
page, then the URL that is built for the page resolves to it, unless its id is the target of
content entities: then nothing is found. -/
theorem Registry.start_reaches_page {config : Config} {tenant : TenantConfig} {locale : LocaleId}
    {page : PageConfig} (h : config.Offers tenant locale page)
    (hfront : page.url.toList.head? ≠ some '/') (hback : page.url.toList.getLast? ≠ some '/')
    (hmarks : config.MarksApart tenant.id) : ∃ registry,
    (start (.ofConfig config) config.settings (.ofRecords config.entities)).outcome =
      .ok registry ∧
    (registry.current.build ⟨tenant.id, locale⟩ page.page .empty true "").outcome =
      .ok page.url ∧
    (config.FamiliesPass registry.current.table ⟨tenant.id, locale⟩ ("/" ++ page.url) →
      (page.page ∉ Template.canonicalTargets → ∃ found,
        (registry.current.resolve
          (registry.current.request page.url ⟨tenant.id, locale⟩)).outcome =
            .ok (.matched found) ∧
          found.source = .route ∧ found.routeId = page.page) ∧
      (page.page ∈ Template.canonicalTargets →
        (registry.current.resolve
          (registry.current.request page.url ⟨tenant.id, locale⟩)).outcome = .ok .notFound)) := by
  obtain ⟨registry, hstart, hcurrent⟩ := start_ofConfig config
  obtain ⟨handle, hget, hcompile⟩ := h.exists_get? hmarks
  refine ⟨registry, hstart, ?_⟩
  rw [hcurrent, h.resolve_eq (h.isPath.relative hfront hback)]
  refine ⟨h.build_eq hget hcompile, fun hfamilies => ⟨fun heligible => ?_, fun hcanonical => ?_⟩⟩
  · have hfirst := h.isFirst hmarks hfamilies heligible hget hcompile
    obtain ⟨found, hscan, hsource, hid⟩ := @Resolve.exists_scan_eq_some config.settings
      ⟨"/" ++ page.url, none, false⟩ _ _ hfirst
    refine ⟨found, by rw [hscan]; rfl, hsource, ?_⟩
    rw [hid, Route.routeId_of_compile hcompile]
    rfl
  · rw [h.scan_eq_none hmarks hfamilies hcanonical]
    rfl

/-! ## Shops with one page -/

namespace Config

/-- A shop with one page. -/
def onePage (page url : String) : Config := { initial with pages := [⟨page, url, 1, none⟩] }

variable {page url : String}

theorem families_onePage (page url : String) :
    (onePage page url).families = .ofList (Provider.familyMap Families.builtIn) := rfl

theorem compiles_onePage (h : Rule.segments (.plain page url (some page)) = .ok [.literal url])
    (hsize : 128 + Families.segmentBound (.literal url) ≤ Pattern.Expr.maxSize) :
    Compiles (.plain page url (some page)) := by
  obtain ⟨regex, hcompile⟩ := Families.compile_of_within h nofun List.nodup_nil (by simpa)
  exact ⟨_, hcompile⟩

theorem offers_onePage (hcompiles : Compiles (.plain page url (some page)))
    (hfamily : (onePage page url).families.contains page = false)
    (hindex : page ≠ Families.indexId) (hpath : Request.IsPath url) :
    (onePage page url).Offers .initial 1 ⟨page, url, 1, none⟩ where
  accepted := validate_eq_ok.mpr ⟨by simp [onePage, initial], by simp [onePage, initial],
    by simp [onePage, initial, TenantConfig.initial], nofun, nofun, nofun,
    List.forall_mem_cons.mpr ⟨hcompiles, nofun⟩, nofun⟩
  templated := rfl
  oneLocale := rfl
  tenant_mem := List.mem_cons_self
  atRoot := rfl
  locale_mem := List.mem_cons_self
  page_mem := List.mem_cons_self
  isFor := ⟨rfl, rfl⟩
  alone other hother _ _ := List.mem_singleton.mp hother
  notFamily := hfamily
  notIndex := hindex
  isPath := hpath
  unclaimed := nofun

theorem templates_onePage (hurl : url ≠ "") : (onePage page url).answers.templates ⟨1, 1⟩ =
    Families.builtIn ++ [.plain page url (some page)] := by
  have hpages : (onePage page url).answers.pages ⟨1, 1⟩ = [⟨page, 1, url⟩] := by
    have hserved : [PageRoute.mk page 1 url].filter (Plan.isServed 1) = [⟨page, 1, url⟩] := by
      simp [Plan.isServed, hurl]
    change Plan.sortPages ([PageRoute.mk page 1 url].filter (Plan.isServed 1)) = _
    rw [hserved]
    exact List.mergeSort_singleton _
  have hcustoms : (onePage page url).answers.customs ⟨1, 1⟩ = [] :=
    List.filterMap_eq_nil_iff.mpr fun _ _ => rfl
  have hvalues : ((onePage page url).answers.families 1).values = Families.builtIn := by
    change (OrderedMap.ofList (Provider.familyMap Families.builtIn)).values = _
    decide +kernel
  unfold Answers.templates
  rw [hpages, hcustoms, List.append_nil]
  exact congrArg (· ++ _) hvalues

theorem marksApart_onePage (hurl : url ≠ "")
    (h : ((Families.builtIn ++ [.plain page url (some page), Families.index]).map
      Template.fingerprint).Nodup) : (onePage page url).MarksApart 1 := by
  have hbuilt : (onePage page url).answers.built 1 =
      Families.builtIn ++ [.plain page url (some page), Families.index] := by
    change (onePage page url).answers.templates ⟨1, 1⟩ ++ [] ++ [Families.index] = _
    rw [templates_onePage hurl, List.append_nil, List.append_assoc]
    rfl
  unfold MarksApart
  rw [hbuilt]
  exact fun t ht t' ht' hmark => List.inj_on_of_nodup_map h ht ht' hmark

/-- No family accepts the path of a page whose URL is a single word. -/
theorem captures_onePage (hurl : url ≠ "") (hmarks : (onePage page url).MarksApart 1)
    (hfamily : (onePage page url).families.contains page = false)
    (hword : url.toList.any Families.isSeparator = false) {handle : Handle}
    (hmem : handle ∈ (onePage page url).table.routes ⟨1, 1⟩)
    (hcontains : (onePage page url).families.contains handle.route.routeId = true) :
    handle.route.captures ("/" ++ url) = none := by
  obtain ⟨routeId, hget⟩ := Table.mem_routes_iff.mp hmem
  have hcompiled := ((onePage page url).built_table.spec hget).2
  rcases @Answers.template_of_mem_routes (onePage page url).answers ⟨1, 1⟩ handle hmarks hmem
    with ht | hindex
  · rw [templates_onePage hurl] at ht
    rcases List.mem_append.mp ht with hbuiltIn | hpage
    · exact Families.captures_of_word hbuiltIn hcompiled hword
    · have hid : handle.route.routeId = page :=
        congrArg Template.routeId (List.mem_singleton.mp hpage)
      rw [hid, hfamily] at hcontains
      cases hcontains
  · have hid : handle.route.routeId = Families.indexId := congrArg Template.routeId hindex
    have hnone : (OrderedMap.ofList (Provider.familyMap Families.builtIn)).contains
        Families.indexId = false := by
      decide +kernel
    rw [hid, families_onePage, hnone] at hcontains
    cases hcontains

end Config

namespace Registry

open Config (onePage)

/-- What a URL spells is no pattern: the page is reached although its URL is full of operators. -/
theorem start_reaches_stores :
    (onePage "stores" "stores.(all)").Offers .initial 1 ⟨"stores", "stores.(all)", 1, none⟩ ∧
      (onePage "stores" "stores.(all)").MarksApart 1 ∧
      ∃ registry,
        (start (.ofConfig (onePage "stores" "stores.(all)")) .initial (.ofRecords [])).outcome =
          .ok registry ∧
        (registry.current.build ⟨1, 1⟩ "stores" .empty true "").outcome = .ok "stores.(all)" ∧
        ∃ found, (registry.current.resolve
            (registry.current.request "stores.(all)" ⟨1, 1⟩)).outcome = .ok (.matched found) ∧
          found.source = .route ∧ found.routeId = "stores" := by
  have hfamily : (onePage "stores" "stores.(all)").families.contains "stores" = false := by
    rw [Config.families_onePage]
    decide +kernel
  have hpath : Request.IsPath "stores.(all)" :=
    ⟨by decide, by decide, by decide, by decide, by decide⟩
  have hoffers := Config.offers_onePage
    (Config.compiles_onePage (by decide +kernel) (by decide)) hfamily (by decide) hpath
  have hmarks : (onePage "stores" "stores.(all)").MarksApart 1 :=
    Config.marksApart_onePage (by decide) (by decide +kernel)
  obtain ⟨registry, hstart, hbuild, hresolve⟩ :=
    start_reaches_page hoffers (by decide) (by decide) hmarks
  obtain ⟨registry', hstart', hcurrent⟩ := start_ofConfig (onePage "stores" "stores.(all)")
  obtain rfl : registry' = registry := Except.ok.inj (hstart'.symm.trans hstart)
  refine ⟨hoffers, hmarks, registry', hstart, hbuild, (hresolve ?_).1 (by decide)⟩
  rw [hcurrent]
  exact .of_captures fun _ => Config.captures_onePage (by decide) hmarks hfamily (by decide)

/-- A page whose id is the target of content entities is not reached. -/
theorem start_misses_suppliers :
    (onePage "supplier" "suppliers").Offers .initial 1 ⟨"supplier", "suppliers", 1, none⟩ ∧
      ∃ registry,
        (start (.ofConfig (onePage "supplier" "suppliers")) .initial (.ofRecords [])).outcome =
          .ok registry ∧
        (∀ handle ∈ registry.current.table.routes ⟨1, 1⟩,
          (onePage "supplier" "suppliers").families.contains handle.route.routeId = true →
            handle.route.captures "/suppliers" = none) ∧
        (registry.current.build ⟨1, 1⟩ "supplier" .empty true "").outcome = .ok "suppliers" ∧
        (registry.current.resolve
          (registry.current.request "suppliers" ⟨1, 1⟩)).outcome = .ok .notFound := by
  have hfamily : (onePage "supplier" "suppliers").families.contains "supplier" = false := by
    rw [Config.families_onePage]
    decide +kernel
  have hpath : Request.IsPath "suppliers" :=
    ⟨by decide, by decide, by decide, by decide, by decide⟩
  have hoffers := Config.offers_onePage
    (Config.compiles_onePage (by decide +kernel) (by decide)) hfamily (by decide) hpath
  have hmarks : (onePage "supplier" "suppliers").MarksApart 1 :=
    Config.marksApart_onePage (by decide) (by decide +kernel)
  have hfamilies : ∀ handle ∈ (onePage "supplier" "suppliers").table.routes ⟨1, 1⟩,
      (onePage "supplier" "suppliers").families.contains handle.route.routeId = true →
        handle.route.captures "/suppliers" = none := fun _ =>
    Config.captures_onePage (by decide) hmarks hfamily (by decide)
  obtain ⟨registry, hstart, hcurrent⟩ := start_ofConfig (onePage "supplier" "suppliers")
  obtain ⟨handle, hget, hcompile⟩ := hoffers.exists_get? hmarks
  refine ⟨hoffers, registry, hstart, ?_⟩
  rw [hcurrent]
  refine ⟨hfamilies, hoffers.build_eq hget hcompile, ?_⟩
  refine (hoffers.resolve_eq (hpath.relative (by decide) (by decide))).trans ?_
  rw [hoffers.scan_eq_none hmarks (.of_captures hfamilies) (by decide)]
  rfl

end Registry

end Waymark
