import Waymark.Load
import Waymark.Build

/-! # Snapshots

Everything that answering requests needs, loaded as one unit and never changed. Whoever holds a
snapshot keeps getting answers from it, whatever is loaded later.
-/

namespace Waymark

/-- A table with all that goes with it. -/
structure Snapshot where
  table : Table
  settings : Settings
  /-- Where tenants are mounted. -/
  baseUris : OrderedMap TenantId String
  entities : EntityResolver

/-- What loading a snapshot answers. -/
structure Loaded where
  outcome : Except CollaboratorError Snapshot
  /-- The cache with the routes that were compiled, also by a load that failed. -/
  cache : CompileCache
  /-- How many routes and custom rules were left out. -/
  rejected : Nat

namespace Snapshot

/-- Loads a snapshot. Compiled routes are taken from the cache and added to it. -/
def load (provider : Provider) (settings : Settings) (entities : EntityResolver)
    (cache : CompileCache) : Loaded :=
  let plan := Plan.mounted provider settings.templatedRouting
  let state := (LoadState.initial cache).applyAll plan.trace
  { outcome := plan.outcome.map fun baseUris => ⟨state.table, settings, baseUris, entities⟩
    cache := state.cache
    rejected := state.rejected }

/-- The context of a request under the switches of the snapshot. -/
def request (s : Snapshot) (path : String) (scope : Scope) : RequestContext where
  path
  scope
  templatedRouting := s.settings.templatedRouting
  multiLocale := s.settings.multiLocale
  baseUri := (s.baseUris.get? scope.tenant).getD "/"

/-- Resolves a request. -/
def resolve (s : Snapshot) (context : RequestContext) :
    Traced EntityCall RoutingError Resolution :=
  Waymark.resolve s.table s.entities s.settings context

/-- Builds a URL. -/
def build (s : Snapshot) (scope : Scope) (routeId : String) (params : Params) (templated : Bool)
    (anchor : String) : Traced BuildStep RoutingError String :=
  buildUrl s.table s.entities scope routeId params ⟨templated, s.settings.multiLocale, anchor⟩

/-- Checks a custom rule against the family of a tenant. -/
def validateRule (s : Snapshot) (tenant : TenantId) (routeId rule : String) :
    Except ValidationError Unit :=
  match s.table.family? tenant routeId with
  | none => .error (.unknownRoute routeId)
  | some family => family.validateRule rule s.settings.templatedRouting

end Snapshot

end Waymark
