import Mathlib.Data.List.Basic
import Waymark.Proofs.Load.Layout

/-! # The order and the contents of a loaded scope

The steps for a scope stand together among the steps of a load, and the others leave the scope
alone. So the routes of the scope are those that its own steps write, followed by the index.
-/

namespace Waymark

namespace LoadStep

/-- The scope whose routes a step is about. -/
def scope? : LoadStep → Option Scope
  | .add scope _ => some scope
  | .refuse scope _ => some scope
  | .addIndex scope => some scope
  | .setFamilies _ _ => none

theorem puts?_of_elsewhere {step : LoadStep} {scope : Scope} (h : step.scope? ≠ some scope) :
    step.puts? scope = none := by
  cases step with
  | add other t => exact if_neg fun heq => h (congrArg some heq)
  | refuse other cause => rfl
  | addIndex other => rfl
  | setFamilies tenant families => rfl

end LoadStep

namespace LoadState

open CompileCache (Explained)

variable {used : TenantId → Template → Prop} {state : LoadState} {scope : Scope}

/-- Steps for other scopes leave the routes of a scope alone. -/
theorem routes_elsewhere {steps : List LoadStep} (hdistinct : Distinct used scope.tenant)
    (h : Explained used state.cache) (hsteps : ∀ step ∈ steps, step.Uses used)
    (helsewhere : ∀ step ∈ steps, step.scope? ≠ some scope) :
    (state.applyAll steps).routes scope = state.routes scope := by
  have hputs : steps.filterMap (LoadStep.puts? scope) = [] :=
    List.filterMap_eq_nil_iff.mpr fun step hstep =>
      LoadStep.puts?_of_elsewhere (helsewhere step hstep)
  rw [routes_applyAll hdistinct h hsteps fun hindex => helsewhere _ hindex rfl, hputs]
  rfl

end LoadState

namespace Answers

variable {answers : Answers} {scope : Scope}

/-! ### The steps of a scope -/

theorem mem_routeSteps {step : LoadStep} (h : step ∈ answers.routeSteps scope) :
    (∃ t, step = .add scope t) ∨ ∃ cause, step = .refuse scope cause := by
  rcases List.mem_append.mp h with h | h
  · rcases List.mem_append.mp h with h | h
    · obtain ⟨t, -, rfl⟩ := List.mem_map.mp h
      exact .inl ⟨t, rfl⟩
    · obtain ⟨p, -, rfl⟩ := List.mem_map.mp h
      exact .inl ⟨p.toTemplate, rfl⟩
  · obtain ⟨entry, -, h⟩ := List.mem_flatMap.mp h
    unfold customSteps at h
    split at h
    next => cases h
    next rule hrule =>
      obtain rfl := List.mem_singleton.mp h
      unfold Plan.overrideStep
      split
      next => exact .inl ⟨entry.2.withRule rule, rfl⟩
      next cause hcause => exact .inr ⟨cause, rfl⟩

theorem scope?_of_mem_scopeSteps {step : LoadStep} (h : step ∈ answers.scopeSteps scope) :
    step.scope? = some scope := by
  rcases List.mem_append.mp h with h | h
  · rcases mem_routeSteps h with ⟨t, rfl⟩ | ⟨cause, rfl⟩ <;> rfl
  · obtain rfl := List.mem_singleton.mp h
    rfl

theorem addIndex_not_mem_routeSteps : .addIndex scope ∉ answers.routeSteps scope := by
  intro h
  rcases mem_routeSteps h with ⟨t, h⟩ | ⟨cause, h⟩ <;> cases h

theorem puts?_customSteps (entry : String × Template) :
    (answers.customSteps scope entry).filterMap (LoadStep.puts? scope) =
      (answers.suited? scope entry).toList := by
  unfold customSteps suited?
  cases answers.overrideRule entry.1 scope with
  | none => rfl
  | some rule =>
      cases hvalid : entry.2.validateRule rule true with
      | ok => simp [Plan.overrideStep, hvalid, LoadStep.puts?, Except.toBool]
      | error => simp [Plan.overrideStep, hvalid, LoadStep.puts?, Except.toBool]

/-- Before the index the steps of a scope put there the templates of the scope. -/
theorem puts?_routeSteps :
    (answers.routeSteps scope).filterMap (LoadStep.puts? scope) = answers.templates scope := by
  unfold routeSteps templates customs
  rw [List.filterMap_append, List.filterMap_append, List.filterMap_map, List.filterMap_map,
    List.filterMap_flatMap]
  simp only [puts?_customSteps, ← List.filterMap_eq_flatMap_toList]
  congr 2
  · have hput : LoadStep.puts? scope ∘ LoadStep.add scope = some := by
      funext t
      exact if_pos rfl
    rw [hput, List.filterMap_some]
  · have hput : (LoadStep.puts? scope ∘ fun p : PageRoute => .add scope p.toTemplate) =
        some ∘ PageRoute.toTemplate := by
      funext p
      exact if_pos rfl
    rw [hput, List.filterMap_eq_map]

theorem mem_built_of_mem_templates {tenant : TenantId} {locale : LocaleId} {t : Template}
    (hlocale : locale ∈ answers.locales tenant) (h : t ∈ answers.templates ⟨tenant, locale⟩) :
    t ∈ answers.built tenant :=
  List.mem_append_left _ (List.mem_flatMap.mpr ⟨locale, hlocale, h⟩)

theorem index_mem_built (tenant : TenantId) : Families.index ∈ answers.built tenant :=
  List.mem_append_right _ List.mem_cons_self

/-- Loading asks the cache for nothing but what is built for the tenants. -/
theorem uses_of_mem_steps {step : LoadStep} (h : step ∈ answers.steps) :
    step.Uses fun tenant t => t ∈ answers.built tenant := by
  obtain ⟨tenant, htenant, h⟩ := List.mem_flatMap.mp h
  rcases List.mem_append.mp h with h | h
  · obtain ⟨locale, hlocale, h⟩ := List.mem_flatMap.mp h
    rcases List.mem_append.mp h with h | h
    · rcases mem_routeSteps h with ⟨t, rfl⟩ | ⟨cause, rfl⟩
      · refine mem_built_of_mem_templates hlocale ?_
        rw [← puts?_routeSteps]
        exact List.mem_filterMap.mpr ⟨_, h, if_pos rfl⟩
      · trivial
    · obtain rfl := List.mem_singleton.mp h
      exact index_mem_built tenant
  · obtain rfl := List.mem_singleton.mp h
    trivial

/-! ### The place of a scope among the steps -/

theorem exists_of_count_eq_one {α : Type} [DecidableEq α] {a : α} {members : List α}
    (h : members.count a = 1) : ∃ before after, members = before ++ a :: after ∧
      a ∉ before ∧ a ∉ after := by
  have hpos : 0 < members.count a := by omega
  obtain ⟨before, after, rfl⟩ := List.append_of_mem (List.count_pos_iff.mp hpos)
  rw [List.count_append, List.count_cons_self] at h
  refine ⟨before, after, rfl, ?_, ?_⟩
  · exact List.count_eq_zero.mp (by omega)
  · exact List.count_eq_zero.mp (by omega)

/-- The steps for a scope that is listed once stand together. -/
theorem steps_eq {tenant : TenantId} {locale : LocaleId}
    (htenant : answers.tenants.count tenant = 1)
    (hlocale : (answers.locales tenant).count locale = 1) :
    ∃ before after,
      answers.steps = before ++ (answers.scopeSteps ⟨tenant, locale⟩ ++ after) ∧
      (∀ step ∈ before, step.scope? ≠ some ⟨tenant, locale⟩) ∧
      ∀ step ∈ after, step.scope? ≠ some ⟨tenant, locale⟩ := by
  obtain ⟨tenants, tenants', hsplit, hbefore, hafter⟩ := exists_of_count_eq_one htenant
  obtain ⟨locales, locales', hsplit', hbefore', hafter'⟩ := exists_of_count_eq_one hlocale
  -- the steps for other tenants and other locales are for other scopes
  have htenants : ∀ others : List TenantId, tenant ∉ others →
      ∀ step ∈ others.flatMap answers.tenantSteps, step.scope? ≠ some ⟨tenant, locale⟩ := by
    intro others hothers step hstep heq
    obtain ⟨other, hother, hstep⟩ := List.mem_flatMap.mp hstep
    rcases List.mem_append.mp hstep with hstep | hstep
    · obtain ⟨_, -, hstep⟩ := List.mem_flatMap.mp hstep
      rw [scope?_of_mem_scopeSteps hstep] at heq
      cases heq
      exact hothers hother
    · obtain rfl := List.mem_singleton.mp hstep
      cases heq
  have hlocales : ∀ others : List LocaleId, locale ∉ others →
      ∀ step ∈ others.flatMap fun other => answers.scopeSteps ⟨tenant, other⟩,
        step.scope? ≠ some ⟨tenant, locale⟩ := by
    intro others hothers step hstep heq
    obtain ⟨other, hother, hstep⟩ := List.mem_flatMap.mp hstep
    rw [scope?_of_mem_scopeSteps hstep] at heq
    cases heq
    exact hothers hother
  refine ⟨tenants.flatMap answers.tenantSteps ++
      locales.flatMap fun other => answers.scopeSteps ⟨tenant, other⟩,
    (locales'.flatMap fun other => answers.scopeSteps ⟨tenant, other⟩) ++
      (.setFamilies tenant (answers.families tenant) :: tenants'.flatMap answers.tenantSteps),
    ?_, ?_, ?_⟩
  · unfold steps
    rw [hsplit, List.flatMap_append, List.flatMap_cons]
    -- only the tenant between the two halves is taken apart
    conv_lhs => unfold tenantSteps
    rw [hsplit', List.flatMap_append, List.flatMap_cons]
    simp only [List.append_assoc, List.cons_append, List.nil_append]
    rfl
  · intro step hstep
    rcases List.mem_append.mp hstep with hstep | hstep
    · exact htenants tenants hbefore step hstep
    · exact hlocales locales hbefore' step hstep
  · intro step hstep
    rcases List.mem_append.mp hstep with hstep | hstep
    · exact hlocales locales' hafter' step hstep
    · rcases List.mem_cons.mp hstep with rfl | hstep
      · nofun
      · exact htenants tenants' hafter step hstep

/-! ### The layout of a loaded scope -/

/-- What a scope holds after loading. -/
structure Layout (answers : Answers) (scope : Scope) (bucket : Bucket) : Prop where
  keys : bucket.keys = answers.order scope
  nodup : (answers.order scope).Nodup
  routeId : ∀ routeId handle, bucket.get? routeId = some handle → handle.route.routeId = routeId
  compiled : ∀ routeId handle, bucket.get? routeId = some handle →
    Route.compile handle.route.template = .ok handle.route
  chosen : ∀ routeId handle, bucket.get? routeId = some handle → routeId ≠ Families.indexId →
    answers.chosen? scope routeId = some handle.route.template
  index : ∀ handle, bucket.get? Families.indexId = some handle →
    handle.route.template = Families.index

theorem chosen?_routeId {routeId : String} {t : Template}
    (h : answers.chosen? scope routeId = some t) : t.routeId = routeId := by
  rcases Option.or_eq_some_iff.mp h with h | ⟨-, h⟩
  · rcases Option.or_eq_some_iff.mp h with h | ⟨-, h⟩
    · obtain ⟨family, hfamily, h⟩ := Option.bind_eq_some_iff.mp (Option.filter_eq_some_iff.mp h).1
      rw [suited?_routeId h]
      exact routeId_of_mem_families (OrderedMap.mem_of_get? hfamily)
    · obtain ⟨p, hlast, rfl⟩ := Option.map_eq_some_iff.mp h
      have hpage := (List.mem_filter.mp (List.mem_of_getLast? hlast)).2
      exact of_decide_eq_true (Bool.and_eq_true_iff.mp hpage).1
  · exact routeId_of_mem_families (OrderedMap.mem_of_get? h)

/-- A scope to which its routes and then the index were written is laid out as it should be. -/
theorem layout_of_written {index : Route} {bucket : Bucket}
    (hcompile : Route.compile Families.index = .ok index)
    (h : bucket.mapValues Handle.route =
      ((answers.written scope).erase Families.indexId).insert Families.indexId index) :
    answers.Layout scope bucket := by
  have hkeys : bucket.keys = answers.order scope := by
    rw [← OrderedMap.keys_mapValues Handle.route, h, OrderedMap.keys_insert,
      OrderedMap.keys_erase, keys_written, if_neg]
    · rfl
    · simp
  have hget : ∀ routeId handle, bucket.get? routeId = some handle →
      (if Families.indexId = routeId then some index else (answers.written scope).get? routeId) =
        some handle.route := by
    intro routeId handle hhandle
    have hroute := OrderedMap.get?_mapValues Handle.route bucket routeId
    rw [hhandle, h, OrderedMap.get?_insert] at hroute
    split
    next heq => rwa [if_pos heq] at hroute
    next hne => rwa [if_neg hne, OrderedMap.get?_erase_ne hne] at hroute
  have hwritten : ∀ routeId handle, bucket.get? routeId = some handle →
      routeId ≠ Families.indexId → answers.chosen? scope routeId = some handle.route.template ∧
        Route.compile handle.route.template = .ok handle.route := by
    intro routeId handle hhandle hne
    have hroute := hget routeId handle hhandle
    rw [if_neg hne.symm] at hroute
    exact chosen?_of_get?_written hroute
  have hindex : ∀ handle, bucket.get? Families.indexId = some handle →
      handle.route = index ∧ index.template = Families.index := by
    intro handle hhandle
    have hroute := hget _ handle hhandle
    rw [if_pos rfl] at hroute
    exact ⟨(Option.some.inj hroute).symm, (Route.compile_eq_ok hcompile).1⟩
  refine ⟨hkeys, hkeys ▸ bucket.nodup_keys, ?_, ?_, fun routeId handle hhandle hne =>
    (hwritten routeId handle hhandle hne).1, ?_⟩
  · intro routeId handle hhandle
    by_cases heq : routeId = Families.indexId
    · subst heq
      obtain ⟨hroute, htemplate⟩ := hindex handle hhandle
      exact congrArg Template.routeId ((congrArg Route.template hroute).trans htemplate)
    · exact chosen?_routeId (hwritten routeId handle hhandle heq).1
  · intro routeId handle hhandle
    by_cases heq : routeId = Families.indexId
    · subst heq
      obtain ⟨hroute, htemplate⟩ := hindex handle hhandle
      rw [hroute, htemplate]
      exact hcompile
    · exact (hwritten routeId handle hhandle heq).2
  · intro handle hhandle
    obtain ⟨hroute, htemplate⟩ := hindex handle hhandle
    rw [hroute, htemplate]

/-- A provider that gives the answers. -/
def provider (answers : Answers) : Provider where
  tenants := .ok answers.tenants
  locales tenant := .ok (answers.locales tenant)
  baseUri _ := .ok "/"
  defaultRoutes tenant := .ok (answers.defaultRoutes tenant)
  extensionRoutes tenant := .ok (answers.extensionRoutes tenant)
  overrideRule routeId scope := .ok (answers.overrideRule routeId scope)
  pageRoutes tenant := .ok (answers.pageRoutes tenant)

theorem gives_provider (answers : Answers) : answers.provider.Gives answers where
  tenants := rfl
  locales _ _ := rfl
  defaultRoutes _ _ := rfl
  extensionRoutes _ _ := rfl
  pageRoutes _ _ := rfl
  overrideRule _ _ _ _ _ := rfl

end Answers

theorem Answers.isPageOrder_pages (answers : Answers) (tenant : TenantId) (locale : LocaleId) :
    Plan.IsPageOrder
      ((answers.pageRoutes tenant).filter fun p => p.locale = locale ∧ p.url ≠ "")
      (answers.pages ⟨tenant, locale⟩) := by
  have hserved : (answers.pageRoutes tenant).filter (Plan.isServed locale) =
      (answers.pageRoutes tenant).filter fun p => p.locale = locale ∧ p.url ≠ "" := by
    refine List.filter_congr fun p _ => ?_
    rw [Bool.eq_iff_iff]
    simp [Plan.isServed]
  rw [Answers.pages, hserved]
  exact Plan.isPageOrder_sortPages _

/-- Loading succeeds with a provider that answers its calls, and lays out every scope that is
listed once and whose tenant's templates have fingerprints of their own. The pages of the scope are
those with a URL, in the order of pages. -/
theorem Plan.table_layout {provider : Provider} {answers : Answers}
    (hgives : provider.Gives answers) {tenant : TenantId} {locale : LocaleId}
    (htenant : answers.tenants.count tenant = 1)
    (hlocale : (answers.locales tenant).count locale = 1)
    (hmarks : ∀ t ∈ answers.built tenant, ∀ t' ∈ answers.built tenant,
      t.fingerprint = t'.fingerprint → t = t') :
    (Plan.table provider true).outcome = .ok ⟨⟩ ∧
      answers.Layout ⟨tenant, locale⟩
        (((LoadState.initial .empty).applyAll (Plan.table provider true).trace).table.bucket
          ⟨tenant, locale⟩) ∧
      Plan.IsPageOrder
        ((answers.pageRoutes tenant).filter fun p => p.locale = locale ∧ p.url ≠ "")
        (answers.pages ⟨tenant, locale⟩) := by
  obtain ⟨index, hcompile⟩ := Families.compile_index
  obtain ⟨before, after, hsteps, hbefore, hafter⟩ := Answers.steps_eq htenant hlocale
  rw [Plan.table_eq hgives]
  refine ⟨rfl, Answers.layout_of_written hcompile ?_, answers.isPageOrder_pages tenant locale⟩
  have hdistinct : LoadState.Distinct (fun tenant t => t ∈ answers.built tenant) tenant :=
    fun t t' ht ht' hmark => hmarks t' ht' t ht hmark
  have huses : ∀ step ∈ answers.steps, step.Uses fun tenant t => t ∈ answers.built tenant :=
    fun step => Answers.uses_of_mem_steps
  rw [hsteps] at huses ⊢
  obtain ⟨husesBefore, husesRest⟩ := List.forall_mem_append.mp huses
  obtain ⟨husesScope, husesAfter⟩ := List.forall_mem_append.mp husesRest
  obtain ⟨husesRoutes, husesIndex⟩ := List.forall_mem_append.mp husesScope
  -- the states in which the steps for the scope begin, come to the index and end
  let start := (LoadState.initial .empty).applyAll before
  let written := start.applyAll (answers.routeSteps ⟨tenant, locale⟩)
  let done := written.apply (.addIndex ⟨tenant, locale⟩)
  have hrun : (LoadState.initial .empty).applyAll
      (before ++ (answers.scopeSteps ⟨tenant, locale⟩ ++ after)) = done.applyAll after := by
    simp [LoadState.applyAll, Answers.scopeSteps, start, written, done]
  have hexplained : CompileCache.Explained (fun tenant t => t ∈ answers.built tenant)
      (LoadState.initial .empty).cache := CompileCache.explained_empty
  have hstart := LoadState.explained_applyAll hexplained husesBefore
  have hwritten := LoadState.explained_applyAll hstart husesRoutes
  have hdone := LoadState.explained_apply hwritten (husesIndex _ List.mem_cons_self)
  rw [hrun]
  change (done.applyAll after).routes ⟨tenant, locale⟩ = _
  rw [LoadState.routes_elsewhere hdistinct hdone husesAfter hafter,
    LoadState.routes_addIndex hcompile hdistinct hwritten (husesIndex _ List.mem_cons_self),
    LoadState.routes_applyAll hdistinct hstart husesRoutes Answers.addIndex_not_mem_routeSteps,
    LoadState.routes_elsewhere hdistinct hexplained husesBefore hbefore,
    Answers.puts?_routeSteps]
  rfl

/-- A shop where a page and a custom rule use the ids of families. Two of its pages have URLs of one
length. -/
def Answers.shop : Answers where
  tenants := [1]
  locales _ := [1]
  defaultRoutes _ := [.plain "shop" "shop" none, .plain "contact" "contact" none]
  extensionRoutes _ := [.plain "news" "news" none]
  overrideRule routeId _ := if routeId = "shop" then some "store" else none
  pageRoutes _ := [⟨"terms", 1, "terms"⟩, ⟨"contact", 1, "contact-us"⟩, ⟨"about", 1, "about"⟩]

/-- The shop with one page, at some URL. -/
def Answers.shopWith (url : String) : Answers :=
  { shop with pageRoutes := fun _ => [⟨"contact", 1, url⟩] }

/-- What is built for the shop, whatever its pages are. -/
theorem Answers.built_of_pages {pageRoutes : TenantId → List PageRoute} {sorted : List PageRoute}
    (h : Plan.IsPageOrder ((pageRoutes 1).filter fun p => p.locale = 1 ∧ p.url ≠ "") sorted) :
    { shop with pageRoutes }.built 1 =
      [.plain "shop" "shop" none, .plain "contact" "contact" none, .plain "news" "news" none] ++
        sorted.map PageRoute.toTemplate ++ [.plain "shop" "store" none, Families.index] := by
  have hpages : { shop with pageRoutes }.pages ⟨1, 1⟩ = sorted := by
    have horder := { shop with pageRoutes }.isPageOrder_pages 1 1
    rw [Plan.isPageOrder_iff.mp horder, Plan.isPageOrder_iff.mp h]
  have htemplates : { shop with pageRoutes }.templates ⟨1, 1⟩ =
      [.plain "shop" "shop" none, .plain "contact" "contact" none, .plain "news" "news" none] ++
        sorted.map PageRoute.toTemplate ++ [.plain "shop" "store" none] := by
    unfold templates
    rw [hpages]
    rfl
  change { shop with pageRoutes }.templates ⟨1, 1⟩ ++ [] ++ [Families.index] = _
  rw [htemplates]
  simp

theorem Answers.built_shopWith {url : String} (h : url ≠ "") : (shopWith url).built 1 =
    [.plain "shop" "shop" none, .plain "contact" "contact" none, .plain "news" "news" none,
      .plain "contact" url (some "contact"), .plain "shop" "store" none, Families.index] := by
  refine @built_of_pages (fun _ => [⟨"contact", 1, url⟩]) [⟨"contact", 1, url⟩] ?_
  rw [List.filter_eq_self.mpr (by simpa using h)]
  exact ⟨.refl _, List.pairwise_singleton _ _, fun _ _ => rfl⟩

theorem Answers.built_shop : Answers.shop.built 1 =
    [.plain "shop" "shop" none, .plain "contact" "contact" none, .plain "news" "news" none,
      .plain "contact" "contact-us" (some "contact"), .plain "terms" "terms" (some "terms"),
      .plain "about" "about" (some "about"), .plain "shop" "store" none, Families.index] := by
  refine @built_of_pages shop.pageRoutes
    [⟨"contact", 1, "contact-us"⟩, ⟨"terms", 1, "terms"⟩, ⟨"about", 1, "about"⟩] ⟨?_, ?_, ?_⟩
  · decide
  · decide
  · decide

/-- The page with the longest URL comes first, and the two others stay in their order. -/
theorem Plan.table_layout_shop :
    (Plan.table Answers.shop.provider true).outcome = .ok ⟨⟩ ∧
      Answers.shop.Layout ⟨1, 1⟩
        (((LoadState.initial .empty).applyAll
          (Plan.table Answers.shop.provider true).trace).table.bucket ⟨1, 1⟩) ∧
      Answers.shop.pages ⟨1, 1⟩ =
        [⟨"contact", 1, "contact-us"⟩, ⟨"terms", 1, "terms"⟩, ⟨"about", 1, "about"⟩] := by
  have hmarks : ∀ t ∈ Answers.shop.built 1, ∀ t' ∈ Answers.shop.built 1,
      t.fingerprint = t'.fingerprint → t = t' := by
    rw [Answers.built_shop]
    decide
  obtain ⟨houtcome, hlayout, horder⟩ :=
    @Plan.table_layout _ _ (Answers.gives_provider Answers.shop) 1 1
    (by decide) (by decide) hmarks
  refine ⟨houtcome, hlayout, ?_⟩
  rw [isPageOrder_iff.mp horder, eq_comm, ← isPageOrder_iff]
  exact ⟨by decide, by decide, by decide⟩

end Waymark
