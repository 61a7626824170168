import Mathlib.Data.List.Flatten
import Mathlib.Data.List.Nodup
import Waymark.Proofs.Config.Valid
import Waymark.Proofs.OrderedMap

/-! # What the check of a configuration reports

Checking goes through the entries of a configuration one after another, and each entry answers
for itself: it is reported for what is wrong with it, once for each fault, whatever is found in
the others. So more custom rules, pages and entities only add to what is reported.
-/

namespace Waymark

/-- A template is the last one with an id in a list of templates. -/
def LastDefined (templates : List Template) (routeId : String) (t : Template) : Prop :=
  ∃ front back, templates = front ++ t :: back ∧ t.routeId = routeId ∧
    ∀ other ∈ back, other.routeId ≠ routeId

theorem lastDefined_iff {templates : List Template} {routeId : String} {t : Template} :
    LastDefined templates routeId t ↔
      (templates.filter fun t => t.routeId = routeId).getLast? = some t := by
  rw [List.getLast?_eq_head?_reverse, ← List.filter_reverse, List.head?_filter,
    List.find?_eq_some_iff_append]
  constructor
  · rintro ⟨front, back, rfl, hid, hback⟩
    refine ⟨decide_eq_true hid, back.reverse, front.reverse, by simp, ?_⟩
    intro other hother
    simpa using hback other (List.mem_reverse.mp hother)
  · rintro ⟨hid, back, front, heq, hback⟩
    refine ⟨front.reverse, back.reverse, ?_, of_decide_eq_true hid, ?_⟩
    · simpa using congrArg List.reverse heq
    · intro other hother
      simpa using hback other (List.mem_reverse.mp hother)

namespace Config

variable {config : Config}

/-! ## Entries and their faults -/

/-- What is checked: that there are tenants, every entry, and the tenants that entries name. -/
inductive Check where
  | tenants
  /-- A tenant, behind others. -/
  | tenant (earlier : List TenantConfig) (t : TenantConfig)
  | route (t : Template)
  | rule (o : OverrideConfig)
  | page (p : PageConfig)
  /-- The tenant that an entry in a part of the configuration is for, if it is for one. -/
  | reference (part : String) (tenant : Option TenantId)

/-- The templates that custom rules can be for. Of those with one id the last one counts. -/
def definitions (config : Config) : List Template :=
  Families.builtIn ++ config.routes.filter fun t => !isBlank t.routeId

/-- What is wrong with an entry. -/
inductive Fault (config : Config) : Check → ConfigProblem → Prop
  | noTenants (h : config.tenants = []) : Fault config .tenants .noTenants
  | duplicateTenant {earlier : List TenantConfig} {t : TenantConfig}
      (h : ∃ other ∈ earlier, other.id = t.id) :
      Fault config (.tenant earlier t) (.duplicateTenant t.id)
  | noLocales {earlier : List TenantConfig} {t : TenantConfig} (h : t.locales = []) :
      Fault config (.tenant earlier t) (.noLocales t.id)
  | emptyRouteId {t : Template} (h : ∀ c ∈ t.routeId.toList, Unicode.isWhiteSpace c = true) :
      Fault config (.route t) .emptyRouteId
  | invalidRoute {t : Template} {cause : CompileError}
      (hname : ∃ c ∈ t.routeId.toList, Unicode.isWhiteSpace c = false)
      (hcause : Route.compile t = .error cause) :
      Fault config (.route t) (.invalidRoute t.routeId cause)
  | unknownOverrideRoute {o : OverrideConfig}
      (h : ∀ t ∈ config.definitions, t.routeId ≠ o.routeId) :
      Fault config (.rule o) (.unknownOverrideRoute o.routeId)
  | invalidOverride {o : OverrideConfig} {family : Template} {cause : ValidationError}
      (hfamily : LastDefined config.definitions o.routeId family)
      (hcause : family.validateRule o.rule config.settings.templatedRouting = .error cause) :
      Fault config (.rule o) (.invalidOverride o.routeId cause)
  | overrideCompile {o : OverrideConfig} {family : Template} {cause : CompileError}
      (hfamily : LastDefined config.definitions o.routeId family)
      (hvalid : family.validateRule o.rule config.settings.templatedRouting = .ok ())
      (hcause : Route.compile (family.withRule o.rule) = .error cause) :
      Fault config (.rule o) (.overrideCompile o.routeId cause)
  | invalidPage {p : PageConfig} {cause : CompileError}
      (hcause : Route.compile (pageTemplate p) = .error cause) :
      Fault config (.page p) (.invalidRoute p.page cause)
  | unknownTenant {part : String} {tenant : TenantId}
      (h : tenant ∉ config.tenants.map (·.id)) :
      Fault config (.reference part (some tenant)) (.unknownTenant part tenant)

/-- Each of some tenants, behind those before it. -/
def tenantChecks : (earlier tenants : List TenantConfig) → List Check
  | _, [] => []
  | earlier, t :: rest => .tenant earlier t :: tenantChecks (earlier ++ [t]) rest

/-- All that is checked, in order. -/
def checks (config : Config) : List Check :=
  .tenants :: tenantChecks [] config.tenants ++ config.routes.map .route ++
    config.overrides.map .rule ++ config.pages.map .page ++
    (config.overrides.map fun o => .reference "overrides" o.tenant) ++
    (config.pages.map fun p => .reference "pages" p.tenant) ++
    config.entities.map fun e => .reference "entities" (some e.scope.tenant)

/-- What is reported of an entry. -/
def found (config : Config) : Check → List ConfigProblem
  | .tenants => if config.tenants.isEmpty then [.noTenants] else []
  | .tenant earlier t =>
      (if (earlier.map (·.id)).contains t.id then [.duplicateTenant t.id] else []) ++
        if t.locales.isEmpty then [.noLocales t.id] else []
  | .route t => routeProblems t
  | .rule o => overrideProblems config.families config.settings.templatedRouting o
  | .page p => pageProblems p
  | .reference part tenant =>
      (tenant.toList.filter fun tenant => !(config.tenants.map (·.id)).contains tenant).map
        (.unknownTenant part)

/-! ## The families that custom rules are for -/

theorem families_eq_definitions :
    config.families = .ofList (Provider.familyMap config.definitions) := by
  unfold families definitions Provider.familyMap
  rw [List.map_append, OrderedMap.ofList_append]

theorem get?_families_eq (routeId : String) : config.families.get? routeId =
    (config.definitions.filter fun t => t.routeId = routeId).getLast? := by
  have hpairs : (Provider.familyMap config.definitions).filter (·.1 = routeId) =
      Provider.familyMap (config.definitions.filter fun t => t.routeId = routeId) :=
    List.filter_map
  rw [families_eq_definitions, OrderedMap.ofList, OrderedMap.get?_insertAll, hpairs]
  unfold Provider.familyMap
  rw [List.getLast?_map, Option.map_map, OrderedMap.get?_empty, Option.or_none]
  exact Option.map_id'

/-- A custom rule is for the last definition of its route. -/
theorem get?_families {routeId : String} {t : Template} :
    config.families.get? routeId = some t ↔ LastDefined config.definitions routeId t := by
  rw [get?_families_eq, lastDefined_iff]

theorem get?_families_eq_none {routeId : String} :
    config.families.get? routeId = none ↔ ∀ t ∈ config.definitions, t.routeId ≠ routeId := by
  rw [get?_families_eq, List.getLast?_eq_none_iff, List.filter_eq_nil_iff]
  simp only [decide_eq_true_eq, ne_eq]

/-- Where all routes have names, custom rules are for the last definition among all templates. -/
theorem definitions_of_named
    (h : ∀ t ∈ config.routes, ∃ c ∈ t.routeId.toList, Unicode.isWhiteSpace c = false) :
    config.definitions = Families.builtIn ++ config.routes := by
  have hnamed : (config.routes.filter fun t => !isBlank t.routeId) = config.routes := by
    rw [List.filter_eq_self]
    intro t ht
    rw [isBlank_eq_false.mpr (h t ht)]
    rfl
  rw [definitions, hnamed]

/-! ## What is reported of an entry -/

theorem mem_compileProblem {problem : CompileError → ConfigProblem} {t : Template}
    {reported : ConfigProblem} : reported ∈ compileProblem problem t ↔
      ∃ cause, Route.compile t = .error cause ∧ reported = problem cause := by
  unfold compileProblem
  cases Route.compile t with
  | ok route => simp
  | error cause => simp

theorem length_compileProblem_le (problem : CompileError → ConfigProblem) (t : Template) :
    (compileProblem problem t).length ≤ 1 := by
  unfold compileProblem
  cases Route.compile t with
  | ok route => exact Nat.zero_le 1
  | error cause => exact Nat.le_refl 1

/-- A custom rule has at most one problem. -/
theorem length_overrideProblems_le (families : FamilyMap) (templated : Bool) (o : OverrideConfig) :
    (overrideProblems families templated o).length ≤ 1 := by
  unfold overrideProblems
  split
  next => exact Nat.le_refl 1
  next family _ =>
    split
    next => exact Nat.le_refl 1
    next => exact length_compileProblem_le _ _

theorem mem_found_tenants {problem : ConfigProblem} :
    problem ∈ config.found .tenants ↔ Fault config .tenants problem := by
  simp only [found, List.mem_ite_nil_right, List.isEmpty_iff, List.mem_singleton]
  constructor
  · rintro ⟨hnone, rfl⟩
    exact .noTenants hnone
  · intro hfault
    cases hfault with
    | noTenants hnone => exact ⟨hnone, rfl⟩

theorem mem_found_tenant {earlier : List TenantConfig} {t : TenantConfig}
    {problem : ConfigProblem} :
    problem ∈ config.found (.tenant earlier t) ↔ Fault config (.tenant earlier t) problem := by
  simp only [found, List.mem_append, List.mem_ite_nil_right, List.mem_singleton,
    List.contains_iff_mem, List.mem_map, List.isEmpty_iff]
  constructor
  · rintro (⟨hearlier, rfl⟩ | ⟨hlocales, rfl⟩)
    · exact .duplicateTenant hearlier
    · exact .noLocales hlocales
  · intro hfault
    cases hfault with
    | duplicateTenant h => exact .inl ⟨h, rfl⟩
    | noLocales h => exact .inr ⟨h, rfl⟩

theorem mem_found_route {t : Template} {problem : ConfigProblem} :
    problem ∈ config.found (.route t) ↔ Fault config (.route t) problem := by
  change problem ∈ routeProblems t ↔ _
  unfold routeProblems
  constructor
  · intro hfound
    split at hfound
    next hblank =>
      obtain rfl := List.mem_singleton.mp hfound
      exact .emptyRouteId (List.all_eq_true.mp hblank)
    next hblank =>
      obtain ⟨cause, hcause, rfl⟩ := mem_compileProblem.mp hfound
      exact .invalidRoute (isBlank_eq_false.mp (Bool.eq_false_iff.mpr hblank)) hcause
  · intro hfault
    cases hfault with
    | emptyRouteId h =>
        have hblank : isBlank t.routeId = true := List.all_eq_true.mpr h
        rw [if_pos hblank]
        exact List.mem_singleton_self _
    | invalidRoute hname hcause =>
        rw [isBlank_eq_false.mpr hname]
        exact mem_compileProblem.mpr ⟨_, hcause, rfl⟩

theorem mem_found_rule {o : OverrideConfig} {problem : ConfigProblem} :
    problem ∈ config.found (.rule o) ↔ Fault config (.rule o) problem := by
  change problem ∈ overrideProblems config.families config.settings.templatedRouting o ↔ _
  unfold overrideProblems
  constructor
  · intro hfound
    split at hfound
    next hnone =>
      obtain rfl := List.mem_singleton.mp hfound
      exact .unknownOverrideRoute (get?_families_eq_none.mp hnone)
    next family hsome =>
      have hfamily := get?_families.mp hsome
      split at hfound
      next cause hcause =>
        obtain rfl := List.mem_singleton.mp hfound
        exact .invalidOverride hfamily hcause
      next hvalid =>
        obtain ⟨cause, hcause, rfl⟩ := mem_compileProblem.mp hfound
        exact .overrideCompile hfamily hvalid hcause
  · intro hfault
    cases hfault with
    | unknownOverrideRoute h =>
        rw [get?_families_eq_none.mpr h]
        exact List.mem_singleton_self _
    | invalidOverride hfamily hcause =>
        rw [get?_families.mpr hfamily]
        dsimp only
        rw [hcause]
        exact List.mem_singleton_self _
    | overrideCompile hfamily hvalid hcause =>
        rw [get?_families.mpr hfamily]
        dsimp only
        rw [hvalid]
        exact mem_compileProblem.mpr ⟨_, hcause, rfl⟩

theorem mem_found_page {p : PageConfig} {problem : ConfigProblem} :
    problem ∈ config.found (.page p) ↔ Fault config (.page p) problem := by
  refine mem_compileProblem.trans ⟨?_, ?_⟩
  · rintro ⟨cause, hcause, rfl⟩
    exact .invalidPage hcause
  · intro hfault
    cases hfault with
    | invalidPage hcause => exact ⟨_, hcause, rfl⟩

theorem mem_found_reference {part : String} {tenant : Option TenantId} {problem : ConfigProblem} :
    problem ∈ config.found (.reference part tenant) ↔
      Fault config (.reference part tenant) problem := by
  constructor
  · intro hfound
    obtain ⟨tenant, htenant, rfl⟩ := List.mem_map.mp hfound
    obtain ⟨hmem, hunknown⟩ := List.mem_filter.mp htenant
    obtain rfl := Option.mem_toList.mp hmem
    exact .unknownTenant (by simpa using hunknown)
  · intro hfault
    cases hfault with
    | unknownTenant h =>
        refine List.mem_map_of_mem (List.mem_filter.mpr ⟨List.mem_singleton_self _, ?_⟩)
        simpa using h

/-- An entry is reported for its faults. -/
theorem mem_found {check : Check} {problem : ConfigProblem} :
    problem ∈ config.found check ↔ Fault config check problem := by
  cases check with
  | tenants => exact mem_found_tenants
  | tenant earlier t => exact mem_found_tenant
  | route t => exact mem_found_route
  | rule o => exact mem_found_rule
  | page p => exact mem_found_page
  | reference part tenant => exact mem_found_reference

theorem nodup_of_length_le_one {problems : List ConfigProblem} (h : problems.length ≤ 1) :
    problems.Nodup := by
  match problems, h with
  | [], _ => exact List.nodup_nil
  | [problem], _ => exact List.nodup_singleton problem

/-- An entry other than a tenant has at most one fault. -/
theorem length_found_le {check : Check} (h : ∀ earlier t, check ≠ .tenant earlier t) :
    (config.found check).length ≤ 1 := by
  cases check with
  | tenants =>
      unfold found
      dsimp only
      split
      · exact Nat.le_refl 1
      · exact Nat.zero_le 1
  | tenant earlier t => exact absurd rfl (h earlier t)
  | route t =>
      change (routeProblems t).length ≤ 1
      unfold routeProblems
      split
      · exact Nat.le_refl 1
      · exact length_compileProblem_le _ t
  | rule o => exact length_overrideProblems_le _ _ o
  | page p => exact length_compileProblem_le _ _
  | reference part tenant =>
      unfold found
      dsimp only
      rw [List.length_map]
      exact Nat.le_trans (List.length_filter_le _ _) Option.length_toList_le

/-- No fault of an entry is reported twice. -/
theorem nodup_found (config : Config) (check : Check) : (config.found check).Nodup := by
  by_cases htenant : ∃ earlier t, check = .tenant earlier t
  · obtain ⟨earlier, t, rfl⟩ := htenant
    unfold found
    dsimp only
    split <;> split <;> simp
  · exact nodup_of_length_le_one (length_found_le fun earlier t heq => htenant ⟨earlier, t, heq⟩)

/-! ## The whole report -/

/-- The problems of tenants are found one by one, each behind the tenants before it. -/
theorem tenantProblems_eq (config : Config) (earlier tenants : List TenantConfig) :
    tenantProblems (earlier.map (·.id)).reverse tenants =
      (tenantChecks earlier tenants).flatMap config.found := by
  induction tenants generalizing earlier with
  | nil => rfl
  | cons t rest ih =>
      have hearlier : t.id :: (earlier.map (·.id)).reverse =
          ((earlier ++ [t]).map (·.id)).reverse := by
        simp
      rw [tenantProblems, tenantChecks, List.flatMap_cons, hearlier, ih, List.contains_reverse]
      rfl

/-- The entries of a part of the configuration that name tenants. -/
theorem flatMap_references {α : Type} (config : Config) (part : String)
    (tenant? : α → Option TenantId) (entries : List α) :
    ((entries.filterMap fun e => (tenant? e).map fun tenant => (part, tenant)).filter
        fun r => !(config.tenants.map (·.id)).contains r.2).map
          (fun r => ConfigProblem.unknownTenant r.1 r.2) =
      entries.flatMap fun e => config.found (.reference part (tenant? e)) := by
  induction entries with
  | nil => rfl
  | cons e entries ih =>
      rw [List.flatMap_cons, ← ih, List.filterMap_cons]
      unfold found
      dsimp only
      cases tenant? e with
      | none => rfl
      | some tenant =>
          simp only [Option.map_some, Option.toList_some, List.filter_cons, List.filter_nil]
          split
          next => rfl
          next => rfl

theorem referenceProblems_eq (config : Config) : config.referenceProblems =
    (config.overrides.flatMap fun o => config.found (.reference "overrides" o.tenant)) ++
      (config.pages.flatMap fun p => config.found (.reference "pages" p.tenant)) ++
      config.entities.flatMap fun e =>
        config.found (.reference "entities" (some e.scope.tenant)) := by
  have hentities : (config.entities.map fun e => ("entities", e.scope.tenant)) =
      config.entities.filterMap fun e =>
        (some e.scope.tenant).map fun tenant => ("entities", tenant) :=
    (congrFun List.filterMap_eq_map _).symm
  rw [referenceProblems, tenantReferences, hentities, List.filter_append, List.filter_append,
    List.map_append, List.map_append, flatMap_references, flatMap_references, flatMap_references]

/-- What is reported is what is found entry by entry. -/
theorem problems_eq (config : Config) :
    config.problems = config.checks.flatMap config.found := by
  have htenants : tenantProblems [] config.tenants = _ := tenantProblems_eq config [] config.tenants
  unfold problems checks
  simp only [List.flatMap_append, List.flatMap_cons, List.flatMap_map, referenceProblems_eq,
    List.append_assoc, htenants]
  rfl

/-- What is reported of an entry depends on the tenants, the routes and the settings only. -/
theorem found_congr {other : Config} (htenants : other.tenants = config.tenants)
    (hroutes : other.routes = config.routes) (hsettings : other.settings = config.settings) :
    other.found = config.found := by
  funext check
  unfold found families
  rw [htenants, hroutes, hsettings]

/-- A configuration with more custom rules, pages and entities. -/
def extend (config : Config) (overrides : List OverrideConfig) (pages : List PageConfig)
    (entities : List EntityRecord) : Config :=
  { config with
    overrides := config.overrides ++ overrides
    pages := config.pages ++ pages
    entities := config.entities ++ entities }

/-- Every check is made there too, in the same order. -/
theorem checks_sublist_extend (config : Config) (overrides : List OverrideConfig)
    (pages : List PageConfig) (entities : List EntityRecord) :
    config.checks.Sublist (config.extend overrides pages entities).checks := by
  have hoverrides := List.sublist_append_left config.overrides overrides
  have hpages := List.sublist_append_left config.pages pages
  have hentities := List.sublist_append_left config.entities entities
  unfold checks
  refine .append (.append (.append (.append (.append (.refl _) ?_) ?_) ?_) ?_) ?_
  · exact hoverrides.map _
  · exact hpages.map _
  · exact hoverrides.map _
  · exact hpages.map _
  · exact hentities.map _

theorem problems_sublist_extend (config : Config) (overrides : List OverrideConfig)
    (pages : List PageConfig) (entities : List EntityRecord) :
    config.problems.Sublist (config.extend overrides pages entities).problems := by
  rw [problems_eq, problems_eq, found_congr rfl rfl rfl]
  exact (checks_sublist_extend config overrides pages entities).flatMap _

/-! ## All configurations -/

/-- All entries of a configuration are in order. -/
structure InOrder (config : Config) : Prop where
  tenants_exist : config.tenants ≠ []
  tenants_differ : (config.tenants.map (·.id)).Nodup
  locales_exist : ∀ t ∈ config.tenants, t.locales ≠ []
  routes_named : ∀ t ∈ config.routes, ∃ c ∈ t.routeId.toList, Unicode.isWhiteSpace c = false
  routes_compile : ∀ t ∈ config.routes, Compiles t
  rules_fit : ∀ o ∈ config.overrides, ∃ family,
    LastDefined (Families.builtIn ++ config.routes) o.routeId family ∧
      family.validateRule o.rule config.settings.templatedRouting = .ok () ∧
      Compiles (family.withRule o.rule)
  pages_compile : ∀ p ∈ config.pages, Compiles (pageTemplate p)
  overrides_known : ∀ o ∈ config.overrides, ∀ tenant, o.tenant = some tenant →
    tenant ∈ config.tenants.map (·.id)
  pages_known : ∀ p ∈ config.pages, ∀ tenant, p.tenant = some tenant →
    tenant ∈ config.tenants.map (·.id)
  entities_known : ∀ e ∈ config.entities, e.scope.tenant ∈ config.tenants.map (·.id)

theorem forall_references {α : Type} {part : String} {tenant? : α → Option TenantId}
    {entries : List α} {P : TenantId → Prop} :
    (∀ r ∈ entries.filterMap fun e => (tenant? e).map fun tenant => (part, tenant), P r.2) ↔
      ∀ e ∈ entries, ∀ tenant, tenant? e = some tenant → P tenant := by
  constructor
  · intro h e he tenant htenant
    exact h (part, tenant) (List.mem_filterMap.mpr ⟨e, he, by rw [htenant]; rfl⟩)
  · intro h r hr
    obtain ⟨e, he, heq⟩ := List.mem_filterMap.mp hr
    obtain ⟨tenant, htenant, rfl⟩ := Option.map_eq_some_iff.mp heq
    exact h e he tenant htenant

/-- All tenants that entries name have a property if those of each part have it. -/
theorem forall_tenantReferences (config : Config) {P : TenantId → Prop} :
    (∀ r ∈ config.tenantReferences, P r.2) ↔
      (∀ o ∈ config.overrides, ∀ tenant, o.tenant = some tenant → P tenant) ∧
      (∀ p ∈ config.pages, ∀ tenant, p.tenant = some tenant → P tenant) ∧
      ∀ e ∈ config.entities, P e.scope.tenant := by
  unfold tenantReferences
  rw [List.forall_mem_append, List.forall_mem_append, forall_references, forall_references,
    List.forall_mem_map, and_assoc]

theorem valid_iff_inOrder : config.Valid ↔ config.InOrder := by
  have hknown := config.forall_tenantReferences
    (P := fun tenant => tenant ∈ config.tenants.map (·.id))
  constructor
  · intro h
    obtain ⟨hoverrides, hpages, hentities⟩ := hknown.mp h.references_exist
    refine ⟨h.tenants_ne_nil, h.tenants_nodup, h.locales_ne_nil, h.routes_named, h.routes_compile,
      ?_, h.pages_compile, hoverrides, hpages, hentities⟩
    intro o ho
    obtain ⟨family, hfamily, hvalid, hcompiles⟩ := h.overrides_fit o ho
    rw [get?_families, definitions_of_named h.routes_named] at hfamily
    exact ⟨family, hfamily, hvalid, hcompiles⟩
  · intro h
    refine ⟨h.tenants_exist, h.tenants_differ, h.locales_exist, h.routes_named, h.routes_compile,
      ?_, h.pages_compile, hknown.mpr ⟨h.overrides_known, h.pages_known, h.entities_known⟩⟩
    intro o ho
    obtain ⟨family, hfamily, hvalid, hcompiles⟩ := h.rules_fit o ho
    rw [← definitions_of_named h.routes_named, ← get?_families] at hfamily
    exact ⟨family, hfamily, hvalid, hcompiles⟩

theorem validate_eq_error {problems : List ConfigProblem} :
    config.validate = .error problems ↔ problems ≠ [] ∧ problems = config.problems := by
  unfold validate
  split
  next hnone =>
    rw [hnone]
    exact iff_of_false nofun fun h => h.1 h.2
  next hsome =>
    constructor
    · rintro ⟨⟩
      exact ⟨hsome, rfl⟩
    · rintro ⟨-, rfl⟩
      rfl

/-- What checking says about a configuration. -/
structure Reports (config : Config) : Prop where
  /-- A configuration is accepted exactly if all of it is in order. -/
  accepted : config.validate = .ok () ↔ config.InOrder
  /-- Otherwise all that is found is reported, entry by entry. -/
  refused : ∀ problems, config.validate = .error problems ↔
    problems ≠ [] ∧ problems = config.checks.flatMap config.found
  /-- An entry is found faulty exactly for its own faults, -/
  faults : ∀ check problem, problem ∈ config.found check ↔ Fault config check problem
  /-- and once for each. -/
  once : ∀ check, (config.found check).Nodup
  /-- A custom rule has one fault at most, and so has a reference to a tenant. -/
  single : ∀ check, (∀ earlier t, check ≠ .tenant earlier t) → (config.found check).length ≤ 1
  /-- What is found of an entry does not depend on custom rules, pages and entities. -/
  independent : ∀ other : Config, other.tenants = config.tenants →
    other.routes = config.routes → other.settings = config.settings → other.found = config.found
  /-- More of these only add to what is reported. -/
  extended : ∀ problems, config.validate = .error problems → ∀ overrides pages entities,
    ∃ more, (config.extend overrides pages entities).validate = .error more ∧
      problems.Sublist more

/-- Checking accepts just the configurations that are in order, and reports all that is wrong with
the others. -/
theorem validate_reports (config : Config) : Reports config where
  accepted := validate_eq_ok.trans valid_iff_inOrder
  refused problems := by
    rw [validate_eq_error, problems_eq]
  faults check problem := mem_found
  once := nodup_found config
  single check := length_found_le
  independent other := found_congr
  extended problems hrefused overrides pages entities := by
    obtain ⟨hne, rfl⟩ := validate_eq_error.mp hrefused
    have hmore := problems_sublist_extend config overrides pages entities
    refine ⟨_, validate_eq_error.mpr ⟨fun hnil => ?_, rfl⟩, hmore⟩
    rw [hnil] at hmore
    exact hne (List.sublist_nil.mp hmore)

example : (initial.extend [⟨"blog", "{id}", some 7, none⟩] [] []).validate =
    .error [.unknownOverrideRoute "blog", .unknownTenant "overrides" 7] := by
  decide +kernel

end Config

end Waymark
