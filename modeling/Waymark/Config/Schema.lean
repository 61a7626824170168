import Waymark.EntityResolver
import Waymark.Settings
import Waymark.Template

/-! # Configurations

All that an operator can set: switches, tenants with their locales, routes of extensions, custom
rules, pages with URLs of their own, and the URLs of entities.
-/

namespace Waymark

/-- A tenant with the locales it serves. -/
structure TenantConfig where
  id : TenantId
  /-- Where the tenant is mounted. -/
  baseUri : String
  locales : List LocaleId
deriving DecidableEq

namespace TenantConfig

/-- The tenant where nothing is configured. -/
def initial : TenantConfig := ⟨1, "/", [1]⟩

end TenantConfig

/-- A custom rule for a route family. -/
structure OverrideConfig where
  routeId : String
  rule : String
  /-- The tenant it is for; without one it is for all. -/
  tenant : Option TenantId
  /-- The locale it is for; without one it is for all. -/
  locale : Option LocaleId
deriving DecidableEq

/-- A page with a URL of its own. -/
structure PageConfig where
  /-- The controller of the page, which is also the id of its route. -/
  page : String
  url : String
  locale : LocaleId
  /-- The tenant it is for; without one it is for all. -/
  tenant : Option TenantId
deriving DecidableEq

/-- How the program reports on itself. -/
structure ObservabilityConfig where
  logLevel : String
  json : Bool
deriving DecidableEq

namespace ObservabilityConfig

/-- The reports where nothing is configured. -/
def initial : ObservabilityConfig := ⟨"info", false⟩

end ObservabilityConfig

/-- A configuration. -/
structure Config where
  settings : Settings
  observability : ObservabilityConfig
  tenants : List TenantConfig
  /-- The routes of extensions. One with the id of a built-in family replaces that family. -/
  routes : List Template
  overrides : List OverrideConfig
  pages : List PageConfig
  entities : List EntityRecord
deriving DecidableEq

namespace Config

/-- The configuration where nothing is configured. -/
def initial : Config := ⟨.initial, .initial, [.initial], [], [], [], []⟩

/-- Whether an entry with an optional tenant is for a tenant. -/
def appliesTo (restriction : Option TenantId) (tenant : TenantId) : Bool :=
  restriction.all (· == tenant)

/-- The tenant with an id. -/
def tenant? (config : Config) (id : TenantId) : Option TenantConfig :=
  config.tenants.find? (·.id == id)

end Config

end Waymark
