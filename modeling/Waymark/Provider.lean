import Waymark.Config.Schema
import Waymark.Families
import Waymark.Table

/-! # Where route definitions come from

A provider says which tenants and locales there are, which route families a tenant has, which
custom rules replace their rules and which pages have URLs of their own. Each answer may be an
outage. `Provider.ofConfig` answers from a configuration.
-/

namespace Waymark

/-- A page with a URL of its own in one locale. -/
structure PageRoute where
  page : String
  locale : LocaleId
  url : String
deriving DecidableEq

namespace PageRoute

/-- The route of a page: its URL is the rule, its name the id and the target. -/
def toTemplate (p : PageRoute) : Template := .plain p.page p.url (some p.page)

end PageRoute

/-- A source of route definitions. -/
structure Provider where
  tenants : Except CollaboratorError (List TenantId)
  locales : TenantId → Except CollaboratorError (List LocaleId)
  /-- Where a tenant is mounted. -/
  baseUri : TenantId → Except CollaboratorError String
  /-- The built-in families, in order of priority. -/
  defaultRoutes : TenantId → Except CollaboratorError (List Template)
  /-- The routes of extensions. -/
  extensionRoutes : TenantId → Except CollaboratorError (List Template)
  /-- The custom rule of a route in a scope. -/
  overrideRule : String → Scope → Except CollaboratorError (Option String)
  pageRoutes : TenantId → Except CollaboratorError (List PageRoute)

namespace Provider

/-- The name under which outages of a provider are reported. -/
def collaboratorName : String := "route definitions"

/-- Families by id. -/
def familyMap (templates : List Template) : List (String × Template) :=
  templates.map fun t => (t.routeId, t)

/-- The families of a tenant: the built-in ones with those of extensions merged over them. An
extension that uses the id of a family replaces it where it stands. -/
def definitions (provider : Provider) (tenant : TenantId) :
    Except CollaboratorError FamilyMap := do
  let families ← provider.defaultRoutes tenant
  let extensions ← provider.extensionRoutes tenant
  pure ((OrderedMap.ofList (familyMap families)).insertAll (familyMap extensions))

/-- The custom rule that a configuration has for a route in a scope: the first for the locale,
or else the first for all locales. -/
def overrideOf (overrides : List OverrideConfig) (routeId : String) (scope : Scope) :
    Option String :=
  let candidates := overrides.filter fun o =>
    o.routeId = routeId && Config.appliesTo o.tenant scope.tenant
  ((candidates.find? (·.locale = some scope.locale)).or
    (candidates.find? (·.locale = none))).map (·.rule)

/-- The pages that a configuration has for a tenant. -/
def pagesOf (pages : List PageConfig) (tenant : TenantId) : List PageRoute :=
  (pages.filter fun p => Config.appliesTo p.tenant tenant).map fun p =>
    ⟨p.page, p.locale, p.url⟩

/-- A provider with only tenants, locales and custom rules from a configuration; otherwise it
has the built-in families, no pages, and tenants that are mounted at the root. -/
def bare (config : Config) : Provider where
  tenants := .ok (config.tenants.map (·.id))
  locales tenant :=
    match config.tenant? tenant with
    | some found => .ok found.locales
    | none => .error ⟨collaboratorName, "unknown tenant " ++ toString tenant.toNat⟩
  baseUri _ := .ok "/"
  defaultRoutes _ := .ok Families.builtIn
  extensionRoutes _ := .ok []
  overrideRule routeId scope := .ok (overrideOf config.overrides routeId scope)
  pageRoutes _ := .ok []

/-- The provider of a configuration. -/
def ofConfig (config : Config) : Provider :=
  { bare config with
    baseUri := fun tenant => .ok (((config.tenant? tenant).map (·.baseUri)).getD "/")
    extensionRoutes := fun _ => .ok config.routes
    pageRoutes := fun tenant => .ok (pagesOf config.pages tenant) }

end Provider

end Waymark
