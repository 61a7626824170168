import Waymark.Registry
import Waymark.Proofs.Load.Alike
import Waymark.Proofs.Load.Complete
import Waymark.Proofs.Load.Order

/-! # Isolation of tenants

What a registry answers in the scopes of a tenant depends on the switches, the routes of extensions
and what the configuration says of that tenant. A configuration may say of other tenants whatever
it wants, and in any order: nothing of it can be seen from the tenant.
-/

namespace Waymark

/-! ## Stores that know the same of a tenant -/

namespace EntityRecord

variable {r : EntityRecord} {scope : Scope} {id : UInt64}

theorem scope_of_isAt {path : String} (h : r.isAt path scope = true) : r.scope = scope := by
  unfold isAt at h
  exact of_decide_eq_true (Bool.and_eq_true_iff.mp h).1

theorem scope_of_isUrlOf {kind : EntityKind} {variant : UrlVariant}
    (h : r.isUrlOf id kind scope variant = true) : r.scope = scope := by
  simp only [isUrlOf, Bool.and_eq_true, decide_eq_true_eq] at h
  exact h.1.1.1

theorem scope_of_isPage (h : r.isPage id scope = true) : r.scope = scope := by
  simp only [isPage, Bool.and_eq_true, decide_eq_true_eq] at h
  exact h.1.1

end EntityRecord

namespace EntityResolver

/-- Two stores answer all questions about a tenant alike. -/
structure AlikeAt (tenant : TenantId) (a b : EntityResolver) : Prop where
  lookup : ∀ path locale, a.lookup path ⟨tenant, locale⟩ = b.lookup path ⟨tenant, locale⟩
  reverse : ∀ id kind locale variant,
    a.reverse id kind ⟨tenant, locale⟩ variant = b.reverse id kind ⟨tenant, locale⟩ variant
  pageController : ∀ id locale,
    a.pageController id ⟨tenant, locale⟩ = b.pageController id ⟨tenant, locale⟩

variable {tenant : TenantId} {records records' : List EntityRecord}

/-- What is found for a tenant is found among the tenant's own records. -/
theorem find?_of_tenant {test : EntityRecord → Bool}
    (h : ∀ r, test r = true → r.scope.tenant = tenant) (records : List EntityRecord) :
    records.find? test = (records.filter (·.scope.tenant = tenant)).find? test := by
  rw [List.find?_filter]
  congr 1
  funext r
  cases htest : test r with
  | true => simp [h r htest]
  | false => simp

/-- Lists with the same records of a tenant answer alike. -/
theorem ofRecords_alikeAt (h : records.filter (·.scope.tenant = tenant) =
    records'.filter (·.scope.tenant = tenant)) :
    (ofRecords records).AlikeAt tenant (ofRecords records') := by
  have hfind : ∀ (test : EntityRecord → Bool) (locale : LocaleId),
      (∀ r, test r = true → r.scope = ⟨tenant, locale⟩) →
      records.find? test = records'.find? test := by
    intro test locale htest
    have htenant := fun r hr => congrArg Scope.tenant (htest r hr)
    rw [find?_of_tenant htenant, h, ← find?_of_tenant htenant]
  constructor
  · intro path locale
    simp only [ofRecords, hfind _ locale fun r => EntityRecord.scope_of_isAt]
  · intro id kind locale variant
    simp only [ofRecords, hfind _ locale fun r => EntityRecord.scope_of_isUrlOf]
  · intro id locale
    simp only [ofRecords, hfind _ locale fun r => EntityRecord.scope_of_isPage]

end EntityResolver

/-! ## Answers to a tenant -/

section Answers

variable {tenant : TenantId} {a b : Table} {entities entities' : EntityResolver}

theorem Table.AlikeAt.map_get? (h : a.AlikeAt tenant b) (locale : LocaleId) (routeId : String) :
    (a.get? ⟨tenant, locale⟩ routeId).map Handle.route =
      (b.get? ⟨tenant, locale⟩ routeId).map Handle.route := by
  unfold get?
  rw [← OrderedMap.get?_mapValues, h.routes, OrderedMap.get?_mapValues]

theorem Table.AlikeAt.hasRoute (h : a.AlikeAt tenant b) (locale : LocaleId) (routeId : String) :
    a.hasRoute ⟨tenant, locale⟩ routeId = b.hasRoute ⟨tenant, locale⟩ routeId := by
  have hroute := congrArg Option.isSome (h.map_get? locale routeId)
  rwa [Option.isSome_map, Option.isSome_map] at hroute

theorem Table.AlikeAt.hasKeyword (h : a.AlikeAt tenant b) (locale : LocaleId)
    (routeId keyword : String) : a.hasKeyword ⟨tenant, locale⟩ routeId keyword =
      b.hasKeyword ⟨tenant, locale⟩ routeId keyword := by
  have hroute := congrArg (Option.any fun r : Route => Rule.mentions r.template.rule keyword)
    (h.map_get? locale routeId)
  rwa [Option.any_map, Option.any_map] at hroute

theorem Table.AlikeAt.family? (h : a.AlikeAt tenant b) (routeId : String) :
    a.family? tenant routeId = b.family? tenant routeId := by
  unfold Table.family?
  rw [h.families]

/-- The first match of a scan depends on the routes, not on the objects. -/
theorem Resolve.scan_eq_findSome? (settings : Settings) (n : Request.NormalizedPath)
    (routes : List Handle) :
    scan settings n routes = (routes.map Handle.route).findSome? (tryRoute settings n) := by
  rw [List.findSome?_map]
  rfl

theorem resolve_alike (htable : a.AlikeAt tenant b) (hentities : entities.AlikeAt tenant entities')
    (settings : Settings) {context : RequestContext} (hcontext : context.scope.tenant = tenant) :
    resolve a entities settings context = resolve b entities' settings context := by
  obtain ⟨path, ⟨_, locale⟩, templated, multiLocale, baseUri⟩ := context
  obtain rfl : _ = tenant := hcontext
  simp only [resolve, Resolve.resolvePath, Resolve.lookupEntity, Resolve.askLookup,
    Resolve.askPageController, Resolve.scan_eq_findSome?, htable.map_routes, hentities.lookup,
    hentities.pageController]

theorem buildUrl_alike (htable : a.AlikeAt tenant b) (hentities : entities.AlikeAt tenant entities')
    (locale : LocaleId) (routeId : String) (params : Params) (options : BuildOptions) :
    buildUrl a entities ⟨tenant, locale⟩ routeId params options =
      buildUrl b entities' ⟨tenant, locale⟩ routeId params options := by
  have hroute := htable.map_get? locale routeId
  unfold buildUrl
  cases hget : a.get? ⟨tenant, locale⟩ routeId with
  | none =>
      rw [hget, Option.map_none, eq_comm, Option.map_eq_none_iff] at hroute
      rw [hroute]
  | some handle =>
      rw [hget, Option.map_some, eq_comm, Option.map_eq_some_iff] at hroute
      obtain ⟨handle', hget', hsame⟩ := hroute
      simp only [hget', hsame, Build.knownUrl, Build.canonicalUrl, hentities.reverse]

end Answers

/-! ## The steps for a tenant -/

namespace Answers

variable {tenant : TenantId}

theorem tenant_of_mem_tenantSteps {answers : Answers} {step : LoadStep}
    (h : step ∈ answers.tenantSteps tenant) : step.tenant = tenant := by
  rcases List.mem_append.mp h with h | h
  · obtain ⟨locale, -, h⟩ := List.mem_flatMap.mp h
    have hscope := scope?_of_mem_scopeSteps h
    cases step with
    | add scope t => exact congrArg Scope.tenant (Option.some.inj hscope)
    | refuse scope cause => exact congrArg Scope.tenant (Option.some.inj hscope)
    | addIndex scope => exact congrArg Scope.tenant (Option.some.inj hscope)
    | setFamilies id families => cases hscope
  · rw [List.mem_singleton.mp h]
    rfl

theorem filter_tenantSteps (answers : Answers) (id : TenantId) :
    (answers.tenantSteps id).filter (·.tenant = tenant) =
      if id = tenant then answers.tenantSteps id else [] := by
  split
  next heq =>
    rw [List.filter_eq_self]
    intro step hstep
    simpa [heq] using tenant_of_mem_tenantSteps hstep
  next hne =>
    rw [List.filter_eq_nil_iff]
    intro step hstep
    simpa [tenant_of_mem_tenantSteps hstep] using hne

/-- The steps for a tenant that is listed once are those that its answers make. -/
theorem filter_steps {answers : Answers} (h : answers.tenants.filter (· = tenant) = [tenant]) :
    answers.steps.filter (·.tenant = tenant) = answers.tenantSteps tenant := by
  have hsteps : ∀ tenants : List TenantId,
      (tenants.flatMap fun id => if id = tenant then answers.tenantSteps id else []) =
        (tenants.filter (· = tenant)).flatMap answers.tenantSteps := by
    intro tenants
    induction tenants with
    | nil => rfl
    | cons id tenants ih => by_cases heq : id = tenant <;> simp [heq, ih]
  unfold steps
  rw [List.filter_flatMap]
  simp only [filter_tenantSteps, hsteps, h, List.flatMap_singleton]

/-- Two providers answer the same about a tenant. -/
structure AgreeOn (tenant : TenantId) (a b : Answers) : Prop where
  locales : a.locales tenant = b.locales tenant
  families : a.families tenant = b.families tenant
  pageRoutes : a.pageRoutes tenant = b.pageRoutes tenant
  overrideRule : ∀ routeId locale,
    a.overrideRule routeId ⟨tenant, locale⟩ = b.overrideRule routeId ⟨tenant, locale⟩

theorem AgreeOn.tenantSteps {a b : Answers} (h : a.AgreeOn tenant b) :
    a.tenantSteps tenant = b.tenantSteps tenant := by
  have hcustoms : ∀ locale, a.customSteps ⟨tenant, locale⟩ = b.customSteps ⟨tenant, locale⟩ := by
    intro locale
    funext entry
    unfold customSteps
    rw [h.overrideRule]
  simp only [Answers.tenantSteps, scopeSteps, routeSteps, pages, h.locales, h.families,
    h.pageRoutes, hcustoms]

end Answers

/-! ## Configurations that say the same of a tenant -/

namespace Config

/-- Two configurations have the same switches and extensions and say the same of a tenant, which
both list once. The order of what they say is the same, but between it anything may stand that is
not about the tenant. -/
structure AgreeOn (tenant : TenantId) (a b : Config) : Prop where
  settings : a.settings = b.settings
  routes : a.routes = b.routes
  /-- The tenant has the same locales and is mounted at the same place. -/
  tenants : ∃ t, a.tenants.filter (·.id = tenant) = [t] ∧ b.tenants.filter (·.id = tenant) = [t]
  overrides : a.overrides.filter (appliesTo ·.tenant tenant) =
    b.overrides.filter (appliesTo ·.tenant tenant)
  pages : a.pages.filter (appliesTo ·.tenant tenant) = b.pages.filter (appliesTo ·.tenant tenant)
  entities : a.entities.filter (·.scope.tenant = tenant) =
    b.entities.filter (·.scope.tenant = tenant)

variable {config a b : Config} {tenant : TenantId} {t : TenantConfig}

theorem tenant?_of_filter (h : config.tenants.filter (·.id = tenant) = [t]) :
    config.tenant? tenant = some t := by
  unfold tenant?
  rw [← List.head?_filter]
  exact congrArg List.head? h

theorem filter_tenants (h : config.tenants.filter (·.id = tenant) = [t]) :
    config.answers.tenants.filter (· = tenant) = [tenant] := by
  have ht : t ∈ config.tenants.filter (·.id = tenant) := h ▸ List.mem_singleton_self t
  have hid : t.id = tenant := of_decide_eq_true (List.mem_filter.mp ht).2
  change (config.tenants.map (·.id)).filter (· = tenant) = [tenant]
  rw [List.filter_map]
  exact (congrArg (List.map TenantConfig.id) h).trans (by rw [List.map_singleton, hid])

/-- Only the custom rules that apply to a tenant count for it. -/
theorem overrideOf_eq (overrides : List OverrideConfig) (routeId : String) (locale : LocaleId) :
    Provider.overrideOf overrides routeId ⟨tenant, locale⟩ =
      Provider.overrideOf (overrides.filter (appliesTo ·.tenant tenant)) routeId
        ⟨tenant, locale⟩ := by
  unfold Provider.overrideOf
  simp only [List.filter_filter, Bool.and_assoc, Bool.and_self]

theorem AgreeOn.answers (h : a.AgreeOn tenant b) : a.answers.AgreeOn tenant b.answers := by
  obtain ⟨t, ha, hb⟩ := h.tenants
  refine ⟨?_, ?_, ?_, fun routeId locale => ?_⟩
  · simp only [Config.answers, tenant?_of_filter ha, tenant?_of_filter hb]
  · simp only [Answers.families, Config.answers, h.routes]
  · simp only [Config.answers, Provider.pagesOf, h.settings, h.pages]
  · simp only [Config.answers, h.settings]
    rw [overrideOf_eq a.overrides, overrideOf_eq b.overrides, h.overrides]

/-- A tenant that is listed once is mounted where its entry says. -/
theorem get?_baseUris (h : config.tenants.filter (·.id = tenant) = [t]) :
    config.baseUris.get? tenant = some t.baseUri := by
  have hentry : ((config.tenants.map (·.id)).map fun id =>
      (id, ((config.tenant? id).map (·.baseUri)).getD "/")).filter (·.1 = tenant) =
      [(tenant, t.baseUri)] := by
    rw [List.filter_map]
    change ((config.answers.tenants.filter (· = tenant)).map _) = _
    rw [filter_tenants h, List.map_singleton, tenant?_of_filter h]
    rfl
  unfold baseUris OrderedMap.ofList
  rw [OrderedMap.get?_insertAll, hentry]
  rfl

/-- The states in which the tables of two configurations are loaded are the same for a tenant of
which they say the same. -/
theorem AgreeOn.loaded (h : a.AgreeOn tenant b) :
    ((LoadState.initial .empty).applyAll a.answers.steps).AlikeAt tenant
      ((LoadState.initial .empty).applyAll b.answers.steps) := by
  obtain ⟨t, ha, hb⟩ := h.tenants
  have hinitial := LoadState.AlikeAt.refl tenant (LoadState.initial .empty)
  have hfirst := hinitial.applyAll_filter a.answers.steps
  have hsecond := hinitial.applyAll_filter b.answers.steps
  rw [Answers.filter_steps (filter_tenants ha), h.answers.tenantSteps] at hfirst
  rw [Answers.filter_steps (filter_tenants hb)] at hsecond
  exact hfirst.trans hsecond.symm

end Config

/-- Two snapshots give the same answers to everything that is asked in the scopes of a tenant. -/
structure Snapshot.AnswersAlike (tenant : TenantId) (a b : Snapshot) : Prop where
  request : ∀ path locale, a.request path ⟨tenant, locale⟩ = b.request path ⟨tenant, locale⟩
  resolve : ∀ context : RequestContext, context.scope.tenant = tenant →
    a.resolve context = b.resolve context
  build : ∀ locale routeId params templated anchor,
    a.build ⟨tenant, locale⟩ routeId params templated anchor =
      b.build ⟨tenant, locale⟩ routeId params templated anchor
  hasRoute : ∀ locale routeId,
    a.table.hasRoute ⟨tenant, locale⟩ routeId = b.table.hasRoute ⟨tenant, locale⟩ routeId
  hasKeyword : ∀ locale routeId keyword,
    a.table.hasKeyword ⟨tenant, locale⟩ routeId keyword =
      b.table.hasKeyword ⟨tenant, locale⟩ routeId keyword
  validateRule : ∀ routeId rule,
    a.validateRule tenant routeId rule = b.validateRule tenant routeId rule

namespace Snapshot

variable {tenant : TenantId} {a b : Snapshot}

/-- Snapshots whose parts are the same for a tenant answer the tenant alike. -/
theorem answersAlike (htable : a.table.AlikeAt tenant b.table) (hsettings : a.settings = b.settings)
    (huris : a.baseUris.get? tenant = b.baseUris.get? tenant)
    (hentities : a.entities.AlikeAt tenant b.entities) : a.AnswersAlike tenant b where
  request path locale := by
    unfold request
    rw [hsettings, huris]
  resolve context hcontext := by
    unfold resolve
    rw [hsettings]
    exact resolve_alike htable hentities b.settings hcontext
  build locale routeId params templated anchor := by
    unfold build
    rw [hsettings]
    exact buildUrl_alike htable hentities locale routeId params _
  hasRoute := htable.hasRoute
  hasKeyword := htable.hasKeyword
  validateRule routeId rule := by
    unfold validateRule
    rw [htable.family?, hsettings]

end Snapshot

/-- Registries that start from two configurations that say the same of a tenant give the same
answers to everything that is asked in the scopes of the tenant. -/
theorem Registry.start_isolates {tenant : TenantId} {a b : Config} (h : a.AgreeOn tenant b) :
    ∃ first second,
      (start (.ofConfig a) a.settings (.ofRecords a.entities)).outcome = .ok first ∧
      (start (.ofConfig b) b.settings (.ofRecords b.entities)).outcome = .ok second ∧
      first.current.AnswersAlike tenant second.current := by
  obtain ⟨t, ha, hb⟩ := h.tenants
  unfold start
  simp only [Config.load_ofConfig]
  refine ⟨_, _, rfl, rfl, Snapshot.answersAlike h.loaded.table h.settings ?_
    (EntityResolver.ofRecords_alikeAt h.entities)⟩
  rw [Config.get?_baseUris ha, Config.get?_baseUris hb]

/-! ## A shop that gets a neighbour -/

/-- The shop beside an outlet, which is listed first and has a custom rule, a page and a product of
its own. -/
def Config.mall : Config :=
  { shop with
    tenants := ⟨2, "/outlet/", [1, 2]⟩ :: shop.tenants
    overrides := ⟨"blog", "stories/{id}", some 2, none⟩ :: shop.overrides
    pages := ⟨"contact", "reach-us", 1, some 2⟩ :: shop.pages
    entities := [⟨⟨2, 1⟩, "gift", .product, 7, true, none⟩] }

theorem Registry.start_isolates_mall : Config.shop.AgreeOn 1 Config.mall ∧
    ∃ first second,
      (start (.ofConfig .shop) Config.shop.settings (.ofRecords Config.shop.entities)).outcome =
        .ok first ∧
      (start (.ofConfig .mall) Config.mall.settings (.ofRecords Config.mall.entities)).outcome =
        .ok second ∧
      first.current.AnswersAlike 1 second.current := by
  have hagree : Config.shop.AgreeOn 1 Config.mall :=
    ⟨rfl, rfl, ⟨.initial, by decide, by decide⟩, by decide, by decide, by decide⟩
  exact ⟨hagree, start_isolates hagree⟩

end Waymark
