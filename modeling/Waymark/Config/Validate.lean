import Waymark.Provider

/-! # Checking a configuration

`Config.problems` lists all that is wrong with a configuration: tenants first, then routes,
custom rules and pages, each in the order of the configuration, and last the references to
tenants that do not exist. Each entry is checked for itself against the same families and the
same tenants. `Config.Valid` says what a faultless configuration is.
-/

namespace Waymark

/-- Something wrong with a configuration. -/
inductive ConfigProblem where
  | noTenants
  | duplicateTenant (tenant : TenantId)
  | noLocales (tenant : TenantId)
  | emptyRouteId
  | invalidRoute (routeId : String) (cause : CompileError)
  | unknownOverrideRoute (routeId : String)
  | invalidOverride (routeId : String) (cause : ValidationError)
  | overrideCompile (routeId : String) (cause : CompileError)
  | unknownTenant (part : String) (tenant : TenantId)
deriving DecidableEq

namespace ConfigProblem

/-- The message of a problem. -/
def message : ConfigProblem → String
  | noTenants => "no tenants configured"
  | duplicateTenant tenant =>
      "tenant " ++ toString tenant.toNat ++ " is configured more than once"
  | noLocales tenant => "tenant " ++ toString tenant.toNat ++ " has no locales"
  | emptyRouteId => "route with empty id"
  | invalidRoute routeId cause =>
      "route " ++ quoted routeId ++ " does not compile: " ++ cause.message
  | unknownOverrideRoute routeId => "override for unknown route " ++ quoted routeId
  | invalidOverride routeId cause =>
      "override for " ++ quoted routeId ++ " rejected: " ++ cause.message
  | overrideCompile routeId cause =>
      "override for " ++ quoted routeId ++ " does not compile: " ++ cause.message
  | unknownTenant part tenant =>
      part ++ " entry references unknown tenant " ++ toString tenant.toNat

/-- The message of several problems. -/
def messages (problems : List ConfigProblem) : String :=
  "Validation failed: " ++ ", ".intercalate (problems.map message)

end ConfigProblem

namespace Config

/-- Whether a text is empty but for white space. -/
def isBlank (text : String) : Bool := text.toList.all Unicode.isWhiteSpace

/-- The problem of a template that does not compile. -/
def compileProblem (problem : CompileError → ConfigProblem) (t : Template) : List ConfigProblem :=
  match Route.compile t with
  | .ok _ => []
  | .error cause => [problem cause]

/-- The problems of tenants, given the ids that came before. -/
def tenantProblems : (seen : List TenantId) → List TenantConfig → List ConfigProblem
  | _, [] => []
  | seen, t :: rest =>
      (if seen.contains t.id then [.duplicateTenant t.id] else []) ++
        (if t.locales.isEmpty then [.noLocales t.id] else []) ++
        tenantProblems (t.id :: seen) rest

/-- The problems of one route. -/
def routeProblems (t : Template) : List ConfigProblem :=
  if isBlank t.routeId then [.emptyRouteId] else compileProblem (.invalidRoute t.routeId) t

/-- The families that custom rules can be for: the built-in ones with the configured routes
merged over them. -/
def families (config : Config) : FamilyMap :=
  (OrderedMap.ofList (Provider.familyMap Families.builtIn)).insertAll
    (Provider.familyMap (config.routes.filter fun t => !isBlank t.routeId))

/-- The problems of one custom rule. -/
def overrideProblems (families : FamilyMap) (templated : Bool) (o : OverrideConfig) :
    List ConfigProblem :=
  match families.get? o.routeId with
  | none => [.unknownOverrideRoute o.routeId]
  | some family =>
      match family.validateRule o.rule templated with
      | .error cause => [.invalidOverride o.routeId cause]
      | .ok _ => compileProblem (.overrideCompile o.routeId) (family.withRule o.rule)

/-- The route of a configured page. -/
def pageTemplate (p : PageConfig) : Template := .plain p.page p.url (some p.page)

/-- The problems of one page. -/
def pageProblems (p : PageConfig) : List ConfigProblem :=
  compileProblem (.invalidRoute p.page) (pageTemplate p)

/-- The references to tenants, with the part of the configuration that they stand in. -/
def tenantReferences (config : Config) : List (String × TenantId) :=
  (config.overrides.filterMap fun o => o.tenant.map fun tenant => ("overrides", tenant)) ++
    (config.pages.filterMap fun p => p.tenant.map fun tenant => ("pages", tenant)) ++
    config.entities.map fun e => ("entities", e.scope.tenant)

/-- The references to tenants that do not exist. -/
def referenceProblems (config : Config) : List ConfigProblem :=
  (config.tenantReferences.filter fun r => !(config.tenants.map (·.id)).contains r.2).map
    fun r => .unknownTenant r.1 r.2

/-- All that is wrong with a configuration. -/
def problems (config : Config) : List ConfigProblem :=
  (if config.tenants.isEmpty then [.noTenants] else []) ++
    tenantProblems [] config.tenants ++
    config.routes.flatMap routeProblems ++
    config.overrides.flatMap
      (overrideProblems config.families config.settings.templatedRouting) ++
    config.pages.flatMap pageProblems ++
    config.referenceProblems

/-- Checks a configuration. -/
def validate (config : Config) : Except (List ConfigProblem) Unit :=
  match config.problems with
  | [] => .ok ()
  | problems => .error problems

/-- Whether a template compiles. -/
def Compiles (t : Template) : Prop := ∃ route, Route.compile t = .ok route

/-- Nothing is wrong with a configuration. -/
structure Valid (config : Config) : Prop where
  tenants_ne_nil : config.tenants ≠ []
  tenants_nodup : (config.tenants.map (·.id)).Nodup
  locales_ne_nil : ∀ t ∈ config.tenants, t.locales ≠ []
  routes_named : ∀ t ∈ config.routes, ∃ c ∈ t.routeId.toList, Unicode.isWhiteSpace c = false
  routes_compile : ∀ t ∈ config.routes, Compiles t
  overrides_fit : ∀ o ∈ config.overrides, ∃ family, config.families.get? o.routeId = some family ∧
    family.validateRule o.rule config.settings.templatedRouting = .ok () ∧
    Compiles (family.withRule o.rule)
  pages_compile : ∀ p ∈ config.pages, Compiles (pageTemplate p)
  references_exist : ∀ r ∈ config.tenantReferences, r.2 ∈ config.tenants.map (·.id)

end Config

end Waymark
