import Mathlib.Data.List.Nodup
import Waymark.Registry
import Waymark.Proofs.Config.Valid
import Waymark.Proofs.Families
import Waymark.Proofs.Load.Effect

/-! # Loads that leave nothing out

A load leaves something out only where a step compiles a template that does not compile, or where
it refuses a custom rule. From the configurations that are accepted no such step comes: whatever
the provider hands out was checked, against the same families and under the same switch. So
everything is loaded, and since every scope gets the index at the end, no scope stays empty.
-/

namespace Waymark

open Config (Compiles)

/-! ## Steps that leave nothing out -/

theorem CompileCache.get_of_compile {t : Template} (h : Compiles t) (cache : CompileCache)
    (tenant : TenantId) : ∃ answer, cache.get tenant t = .ok answer := by
  obtain ⟨route, hroute⟩ := h
  unfold get
  split
  next => exact ⟨_, rfl⟩
  next =>
    rw [hroute]
    exact ⟨_, rfl⟩

namespace LoadStep

/-- A step puts into its scope all that it is there for: its template compiles, and it refuses
no custom rule. -/
def Succeeds : LoadStep → Prop
  | .add _ t => Compiles t
  | .refuse _ _ => False
  | .addIndex _ => True
  | .setFamilies _ _ => True

end LoadStep

namespace LoadState

variable {state : LoadState} {step : LoadStep} {steps : List LoadStep} {scope : Scope}

theorem rejected_apply (h : step.Succeeds) : (state.apply step).rejected = state.rejected := by
  cases step with
  | add scope t =>
      obtain ⟨answer, hanswer⟩ := state.cache.get_of_compile h scope.tenant
      simp [apply, hanswer]
  | refuse => exact h.elim
  | addIndex scope =>
      obtain ⟨answer, hanswer⟩ := state.cache.get_of_compile Families.compile_index scope.tenant
      simp [apply, hanswer]
  | setFamilies => rfl

/-- Steps that succeed leave nothing out. -/
theorem rejected_applyAll (h : ∀ step ∈ steps, step.Succeeds) :
    (state.applyAll steps).rejected = state.rejected := by
  induction steps generalizing state with
  | nil => rfl
  | cons step steps ih =>
      obtain ⟨hstep, hsteps⟩ := List.forall_mem_cons.mp h
      exact (ih hsteps).trans (rejected_apply hstep)

/-- A scope has a route. -/
def Serves (state : LoadState) (scope : Scope) : Prop := (state.table.bucket scope).entries ≠ []

theorem entries_insert_ne_nil (m : Bucket) (routeId : String) (handle : Handle) :
    (m.insert routeId handle).entries ≠ [] := by
  intro hnil
  have hget := OrderedMap.get?_insert m routeId routeId handle
  simp [OrderedMap.get?, hnil, OrderedMap.find?] at hget

/-- No step empties a scope. -/
theorem serves_apply (h : state.Serves scope) (step : LoadStep) :
    (state.apply step).Serves scope := by
  unfold Serves at h ⊢
  cases step with
  | add other t =>
      unfold apply
      dsimp only
      split
      next =>
        rw [Table.bucket_insert]
        split
        next => exact entries_insert_ne_nil _ _ _
        next => exact h
      next => exact h
  | refuse => exact h
  | addIndex other =>
      unfold apply
      dsimp only
      split
      next =>
        rw [Table.bucket_pushLast]
        split
        next => exact entries_insert_ne_nil _ _ _
        next => exact h
      next => exact h
  | setFamilies => exact h

/-- The index is a route. -/
theorem serves_addIndex (state : LoadState) (scope : Scope) :
    (state.apply (.addIndex scope)).Serves scope := by
  obtain ⟨answer, hanswer⟩ := state.cache.get_of_compile Families.compile_index scope.tenant
  unfold Serves
  simp only [apply, hanswer]
  rw [Table.bucket_pushLast, if_pos rfl]
  exact entries_insert_ne_nil _ _ _

/-- A scope whose index is among the steps has a route behind them. -/
theorem serves_applyAll (h : state.Serves scope ∨ .addIndex scope ∈ steps) :
    (state.applyAll steps).Serves scope := by
  induction steps generalizing state with
  | nil =>
      rcases h with hserves | hmem
      · exact hserves
      · cases hmem
  | cons step steps ih =>
      apply ih
      rcases h with hserves | hmem
      · exact .inl (serves_apply hserves step)
      · rcases List.mem_cons.mp hmem with rfl | hmem
        · exact .inl (serves_addIndex state scope)
        · exact .inr hmem

end LoadState

/-! ## Routing without templates -/

/-- A provider as plain routing sees it: without pages and custom rules. -/
def Provider.plain (provider : Provider) : Provider :=
  { provider with
    pageRoutes := fun _ => .ok []
    overrideRule := fun _ _ => .ok none }

namespace Plan

variable {provider : Provider} {config : Config}

/-- Without templates loading does as if there were no pages and custom rules. -/
theorem scope_plain (families : FamilyMap) (pages : List PageRoute) (id : Scope) :
    scope provider false families pages id = scope provider.plain true families [] id := by
  have hcustoms : Traced.forEach families.entries (override provider.plain id) = Traced.ok ⟨⟩ := by
    have hnone := @Traced.forEach_eq _ _ _ families.entries (override provider.plain id)
      (fun _ => []) fun _ _ => rfl
    rw [hnone]
    simp [Traced.ok]
  unfold scope
  rw [if_pos rfl, hcustoms]
  rfl

theorem tenant_plain (id : TenantId) :
    tenant provider false id = tenant provider.plain true id := by
  have hpages : provider.plain.pageRoutes id = .ok [] := rfl
  have hsorted : sortPages [] = [] := List.mergeSort_nil
  unfold tenant
  simp only [scope_plain, Bool.false_eq_true, if_false, if_true, hpages, Traced.ofExcept_bind,
    hsorted]
  rfl

theorem table_plain : table provider false = table provider.plain true := by
  unfold table
  rw [funext tenant_plain]
  rfl

end Plan

/-! ## What a configuration answers -/

namespace Config

variable {config : Config}

/-- What the provider of a configuration answers; pages and custom rules count under templated
routing only. -/
def answers (config : Config) : Answers where
  tenants := config.tenants.map (·.id)
  locales tenant := ((config.tenant? tenant).map (·.locales)).getD []
  defaultRoutes _ := Families.builtIn
  extensionRoutes _ := config.routes
  overrideRule routeId scope :=
    if config.settings.templatedRouting then Provider.overrideOf config.overrides routeId scope
    else none
  pageRoutes tenant :=
    if config.settings.templatedRouting then Provider.pagesOf config.pages tenant else []

/-- The tenants that a configuration lists are known. -/
theorem exists_tenant? {tenant : TenantId} (h : tenant ∈ config.tenants.map (·.id)) :
    ∃ t, config.tenant? tenant = some t := by
  obtain ⟨t, ht, rfl⟩ := List.mem_map.mp h
  have hfound : (config.tenants.find? (·.id == t.id)).isSome = true :=
    List.find?_isSome.mpr ⟨t, ht, beq_self_eq_true t.id⟩
  exact Option.isSome_iff_exists.mp hfound

theorem locales_ofConfig {tenant : TenantId} (h : tenant ∈ config.tenants.map (·.id)) :
    (Provider.ofConfig config).locales tenant = .ok (config.answers.locales tenant) := by
  obtain ⟨t, ht⟩ := exists_tenant? h
  simp [Provider.ofConfig, Provider.bare, answers, ht]

/-- Under either switch, loading from a configuration carries out the steps of its answers. -/
theorem table_ofConfig : Plan.table (Provider.ofConfig config) config.settings.templatedRouting =
    ⟨config.answers.steps, .ok ⟨⟩⟩ := by
  cases hmode : config.settings.templatedRouting with
  | true =>
      apply Plan.table_eq
      exact ⟨rfl, fun _ h => locales_ofConfig h, fun _ _ => rfl, fun _ _ => rfl,
        fun _ _ => by simp [answers, hmode, Provider.ofConfig],
        fun _ _ _ _ _ => by simp [answers, hmode, Provider.ofConfig, Provider.bare]⟩
  | false =>
      rw [Plan.table_plain]
      apply Plan.table_eq
      exact ⟨rfl, fun _ h => locales_ofConfig h, fun _ _ => rfl, fun _ _ => rfl,
        fun _ _ => by simp [answers, hmode, Provider.plain],
        fun _ _ _ _ _ => by simp [answers, hmode, Provider.plain]⟩

/-! ## Configurations that are accepted -/

theorem tenant?_of_mem (h : config.Valid) {t : TenantConfig} (ht : t ∈ config.tenants) :
    config.tenant? t.id = some t := by
  obtain ⟨found, hfound⟩ := exists_tenant? (List.mem_map_of_mem ht)
  have hid : found.id = t.id := by simpa using List.find?_some hfound
  rw [hfound, List.inj_on_of_nodup_map h.tenants_nodup (List.mem_of_find?_eq_some hfound) ht hid]

/-- The check knows the families that are loaded: no route is left out for its id. -/
theorem families_eq (h : config.Valid) (tenant : TenantId) :
    config.families = config.answers.families tenant := by
  have hnamed : config.routes.filter (fun t => !isBlank t.routeId) = config.routes := by
    rw [List.filter_eq_self]
    intro t ht
    rw [isBlank_eq_false.mpr (h.routes_named t ht)]
    rfl
  unfold families Answers.families
  rw [hnamed]
  rfl

/-- The families of an accepted configuration compile. -/
theorem compiles_of_mem_families (h : config.Valid) {tenant : TenantId}
    {entry : String × Template} (hentry : entry ∈ (config.answers.families tenant).entries) :
    Compiles entry.2 := by
  rcases OrderedMap.mem_of_mem_insertAll hentry with hbuiltIn | hroute
  · rcases OrderedMap.mem_of_mem_insertAll hbuiltIn with hnone | hbuiltIn
    · cases hnone
    · obtain ⟨t, ht, rfl⟩ := List.mem_map.mp hbuiltIn
      exact Families.compiles_builtIn ht
  · obtain ⟨t, ht, rfl⟩ := List.mem_map.mp hroute
    exact h.routes_compile t ht

theorem mem_of_overrideOf {overrides : List OverrideConfig} {routeId rule : String} {scope : Scope}
    (h : Provider.overrideOf overrides routeId scope = some rule) :
    ∃ o ∈ overrides, o.routeId = routeId ∧ o.rule = rule := by
  obtain ⟨o, ho, rfl⟩ := Option.map_eq_some_iff.mp h
  have hcandidate : o ∈ overrides.filter fun o =>
      o.routeId = routeId && appliesTo o.tenant scope.tenant := by
    rcases Option.or_eq_some_iff.mp ho with hlocale | ⟨-, hall⟩
    · exact List.mem_of_find?_eq_some hlocale
    · exact List.mem_of_find?_eq_some hall
  obtain ⟨hmem, hfits⟩ := List.mem_filter.mp hcandidate
  rw [Bool.and_eq_true, decide_eq_true_eq] at hfits
  exact ⟨o, hmem, hfits.1, rfl⟩

/-- A custom rule that is loaded was checked against the family that it is loaded for. -/
theorem succeeds_customStep (h : config.Valid) {scope : Scope} {entry : String × Template}
    (hentry : entry ∈ (config.answers.families scope.tenant).entries) {step : LoadStep}
    (hstep : step ∈ config.answers.customSteps scope entry) : step.Succeeds := by
  unfold Answers.customSteps at hstep
  split at hstep
  next => cases hstep
  next rule hrule =>
    rw [List.mem_singleton.mp hstep]
    unfold answers at hrule
    dsimp only at hrule
    split at hrule
    next htemplated =>
      obtain ⟨o, ho, hid, rfl⟩ := mem_of_overrideOf hrule
      obtain ⟨family, hfamily, hvalid, hcompiles⟩ := h.overrides_fit o ho
      rw [families_eq h scope.tenant, hid, OrderedMap.get?_of_mem hentry] at hfamily
      cases hfamily
      rw [htemplated] at hvalid
      unfold Plan.overrideStep
      rw [hvalid]
      exact hcompiles
    next => cases hrule

/-- A page that is loaded was checked under the same rule. -/
theorem compiles_of_mem_pages (h : config.Valid) {scope : Scope} {p : PageRoute}
    (hp : p ∈ config.answers.pages scope) : Compiles p.toTemplate := by
  have hroute := List.mem_of_mem_filter (List.mem_mergeSort.mp hp)
  unfold answers at hroute
  dsimp only at hroute
  split at hroute
  next =>
    obtain ⟨page, hpage, rfl⟩ := List.mem_map.mp hroute
    exact h.pages_compile page (List.mem_of_mem_filter hpage)
  next => cases hroute

theorem succeeds_of_mem_steps (h : config.Valid) {step : LoadStep}
    (hstep : step ∈ config.answers.steps) : step.Succeeds := by
  obtain ⟨tenant, -, hstep⟩ := List.mem_flatMap.mp hstep
  rcases List.mem_append.mp hstep with hstep | hstep
  · obtain ⟨locale, -, hstep⟩ := List.mem_flatMap.mp hstep
    rcases List.mem_append.mp hstep with hstep | hstep
    · rcases List.mem_append.mp hstep with hstep | hstep
      · rcases List.mem_append.mp hstep with hfamily | hpage
        · obtain ⟨t, ht, rfl⟩ := List.mem_map.mp hfamily
          obtain ⟨entry, hentry, rfl⟩ := List.mem_map.mp ht
          exact compiles_of_mem_families h hentry
        · obtain ⟨p, hp, rfl⟩ := List.mem_map.mp hpage
          exact compiles_of_mem_pages h hp
      · obtain ⟨entry, hentry, hstep⟩ := List.mem_flatMap.mp hstep
        exact succeeds_customStep h hentry hstep
    · rw [List.mem_singleton.mp hstep]
      trivial
  · rw [List.mem_singleton.mp hstep]
    trivial

/-- Every scope gets the index. -/
theorem addIndex_mem_steps (h : config.Valid) {t : TenantConfig} (ht : t ∈ config.tenants)
    {locale : LocaleId} (hlocale : locale ∈ t.locales) :
    .addIndex ⟨t.id, locale⟩ ∈ config.answers.steps := by
  have hlocales : config.answers.locales t.id = t.locales := by
    simp [answers, tenant?_of_mem h ht]
  refine List.mem_flatMap.mpr ⟨t.id, List.mem_map_of_mem ht, List.mem_append_left _ ?_⟩
  rw [hlocales]
  exact List.mem_flatMap.mpr ⟨locale, hlocale, List.mem_append_right _ List.mem_cons_self⟩

/-- Where the tenants of a configuration are mounted. -/
def baseUris (config : Config) : OrderedMap TenantId String :=
  .ofList ((config.tenants.map (·.id)).map fun tenant =>
    (tenant, ((config.tenant? tenant).map (·.baseUri)).getD "/"))

theorem mounted_ofConfig :
    Plan.mounted (Provider.ofConfig config) config.settings.templatedRouting =
      ⟨config.answers.steps, .ok config.baseUris⟩ :=
  Plan.mounted_eq table_ofConfig rfl fun _ => rfl

/-- Any configuration loads with any cache, if not completely. -/
theorem load_ofConfig (config : Config) (entities : EntityResolver) (cache : CompileCache) :
    Snapshot.load (Provider.ofConfig config) config.settings entities cache =
      ⟨.ok ⟨((LoadState.initial cache).applyAll config.answers.steps).table, config.settings,
          config.baseUris, entities⟩,
        ((LoadState.initial cache).applyAll config.answers.steps).cache,
        ((LoadState.initial cache).applyAll config.answers.steps).rejected⟩ := by
  unfold Snapshot.load
  rw [mounted_ofConfig]
  rfl

end Config

/-- Every scope of a configuration has a route. -/
def Snapshot.Covers (s : Snapshot) (config : Config) : Prop :=
  ∀ t ∈ config.tenants, ∀ locale ∈ t.locales, 0 < (s.table.bucket ⟨t.id, locale⟩).size

namespace Registry

variable {config : Config}

/-- An accepted configuration loads with any cache: nothing is left out, and no scope is empty. -/
theorem load_of_valid (h : config.Valid) (entities : EntityResolver) (cache : CompileCache) :
    ∃ snapshot after, snapshot.Covers config ∧
      Snapshot.load (Provider.ofConfig config) config.settings entities cache =
        ⟨.ok snapshot, after, 0⟩ := by
  let state := (LoadState.initial cache).applyAll config.answers.steps
  have hrejected : state.rejected = 0 :=
    LoadState.rejected_applyAll fun _ hstep => Config.succeeds_of_mem_steps h hstep
  refine ⟨⟨state.table, config.settings, config.baseUris, entities⟩, state.cache, ?_, ?_⟩
  · intro t ht locale hlocale
    have hserves : state.Serves ⟨t.id, locale⟩ :=
      LoadState.serves_applyAll (.inr (Config.addIndex_mem_steps h ht hlocale))
    exact List.length_pos_iff.mpr hserves
  · rw [Config.load_ofConfig, ← hrejected]

/-- From a configuration that is accepted a registry starts, and any registry reloads, whatever
its cache holds. Nothing is counted but the routes and the reload: no template and no custom rule
is left out. Every scope of the configuration has a route in the table that goes live. -/
theorem loads_accepted (h : config.validate = .ok ()) :
    (∃ registry, registry.current.Covers config ∧
      start (Provider.ofConfig config) config.settings (EntityResolver.ofRecords config.entities) =
        ⟨[.routes registry.current.table.size], .ok registry⟩) ∧
    ∀ (registry : Registry) (kept : List Snapshot), ∃ reloaded : Registry,
      reloaded.current.Covers config ∧
      registry.reload kept (Provider.ofConfig config) config.settings
        (EntityResolver.ofRecords config.entities) =
        ⟨reloaded, [.routes reloaded.current.table.size, .reload true], .ok ()⟩ := by
  have hvalid := Config.validate_eq_ok.mp h
  constructor
  · obtain ⟨snapshot, after, hcovers, hload⟩ :=
      load_of_valid hvalid (EntityResolver.ofRecords config.entities) .empty
    refine ⟨⟨snapshot, after⟩, hcovers, ?_⟩
    unfold start
    rw [hload]
    rfl
  · intro registry kept
    obtain ⟨snapshot, after, hcovers, hload⟩ :=
      load_of_valid hvalid (EntityResolver.ofRecords config.entities) registry.cache
    refine ⟨publish ⟨registry.current, after⟩ kept snapshot, hcovers, ?_⟩
    unfold reload
    rw [hload]
    rfl

end Registry

/-! ## A shop with a blog -/

namespace Config

/-- The entries of a blog, by number. -/
def blogEntries : Template :=
  (Template.plain "blog" "blog/{id}" (some "blog")).withKeyword "id" ⟨"[0-9]+", some "id_entry"⟩

/-- A shop with an extension, a custom rule for it and a page. -/
def shop : Config :=
  { initial with
    routes := [blogEntries]
    overrides := [⟨"blog", "news/{id}", none, some 1⟩]
    pages := [⟨"contact", "contact-us", 1, some 1⟩] }

theorem compiles_blogRule (front : String) {rule : String}
    (h : Rule.segments (blogEntries.withRule rule) = .ok [.literal front,
      .placeholder (Families.idPlaceholder "id_entry")])
    (hsize : 128 + (([.literal front, .placeholder (Families.idPlaceholder "id_entry")] :
      List Rule.Segment).map Families.segmentBound).sum ≤ Pattern.Expr.maxSize) :
    Compiles (blogEntries.withRule rule) := by
  have hid : (Families.idPlaceholder "id_entry").spec.Within Families.fragmentSize :=
    Families.within_number (Pattern.Read.isGroupName_of_lower (by decide) (by decide))
  obtain ⟨regex, hcompile⟩ := Families.compile_of_within h (List.forall_mem_cons.mpr ⟨hid, nofun⟩)
    (List.nodup_singleton _) hsize
  exact ⟨_, hcompile⟩

theorem validate_shop : shop.validate = .ok () := by
  refine validate_eq_ok.mpr ⟨by decide, by decide, by decide, ?_, ?_, ?_, ?_, by decide⟩
  · exact List.forall_mem_cons.mpr ⟨⟨'b', by decide, by decide +kernel⟩, nofun⟩
  · exact List.forall_mem_cons.mpr
      ⟨compiles_blogRule "blog/" (by decide +kernel) (by decide), nofun⟩
  · have hfamily : shop.families.get? "blog" = some blogEntries := by decide +kernel
    exact List.forall_mem_cons.mpr ⟨⟨blogEntries, hfamily, by decide +kernel,
      compiles_blogRule "news/" (by decide +kernel) (by decide)⟩, nofun⟩
  · have hpage : Rule.segments (pageTemplate ⟨"contact", "contact-us", 1, some 1⟩) =
        .ok [.literal "contact-us"] := by decide +kernel
    obtain ⟨regex, hcompile⟩ := Families.compile_of_within hpage nofun (by decide) (by decide)
    exact List.forall_mem_cons.mpr ⟨⟨_, hcompile⟩, nofun⟩

end Config

theorem Registry.loads_accepted_shop : Config.shop.validate = .ok () ∧
    ∃ registry, registry.current.Covers Config.shop ∧
      start (Provider.ofConfig Config.shop) Config.shop.settings
        (EntityResolver.ofRecords Config.shop.entities) =
        ⟨[.routes registry.current.table.size], .ok registry⟩ :=
  ⟨Config.validate_shop, (loads_accepted Config.validate_shop).1⟩

end Waymark
