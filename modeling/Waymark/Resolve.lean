import Waymark.Table
import Waymark.EntityResolver
import Waymark.Settings
import Waymark.Traced
import Waymark.Families
import Waymark.Request.Normalize
import Waymark.Request.Explicit
import Waymark.Request.Controller
import Waymark.Request.Asset

/-! # Resolving requests

From a request path to a route with bound parameters, in stages: a controller that the query
names; the index, if routing is not templated; static assets, which are not found; the index; the
entity resolver; and last the routes of the scope in their order, of which the first that matches
wins. A request that nothing matches is an answer, an outage of the entity resolver an error.
-/

namespace Waymark

/-- A request with all that bears on its resolution. -/
structure RequestContext where
  /-- The raw path and query. -/
  path : String
  scope : Scope
  templatedRouting : Bool
  multiLocale : Bool
  /-- Where the tenant is mounted. -/
  baseUri : String
deriving DecidableEq

/-- How a match was found. -/
inductive MatchSource where
  /-- The query names the controller. -/
  | explicit
  /-- By the entity resolver. -/
  | entity
  /-- By a route. -/
  | route
  /-- The index. -/
  | default
deriving DecidableEq

namespace MatchSource

/-- The name of a source. -/
def name : MatchSource → String
  | explicit => "explicit"
  | entity => "entity"
  | route => "route"
  | default => "default"

end MatchSource

/-- A resolved request. -/
structure RouteMatch where
  routeId : String
  controller : String
  params : Params
  /-- The controller lives in a module. -/
  moduleDispatch : Bool
  /-- The locale segment of the path. -/
  localeCode : Option String
  source : MatchSource
deriving DecidableEq

/-- What a request resolves to. -/
inductive Resolution where
  | matched (found : RouteMatch)
  | notFound
deriving DecidableEq

namespace Resolve

/-- Groups that are never exposed as parameters. -/
def internalGroups : List String := ["rewrite", "cms_rewrite", "cms_cat_rewrite"]

/-- The controller where none is named. -/
def defaultController (settings : Settings) (moduleDispatch : Bool) : String :=
  if moduleDispatch then settings.moduleDefaultController else settings.defaultController

/-- The match of the index. -/
def indexMatch (settings : Settings) (localeCode : Option String) : RouteMatch where
  routeId := Families.indexId
  controller := Request.controllerName (defaultController settings false)
  params := .empty
  moduleDispatch := false
  localeCode
  source := .default

/-- The match of a request whose query names the controller. -/
def explicitMatch? (path : String) : Option RouteMatch :=
  (Request.rawQuery? path.toList).bind fun query =>
    (Request.explicitController? query).map fun named =>
      { routeId := named.1
        controller := Request.controllerName named.1
        params := named.2
        moduleDispatch := Request.asksForModule query
        localeCode := none
        source := .explicit }

/-- The match of an entity that is shown by a controller. -/
def entityMatch (hit : EntityRef) (routeId controller : String) (localeCode : Option String) :
    RouteMatch where
  routeId
  controller := Request.controllerName controller
  params := .ofList [(hit.kind.idParam, toString hit.id.toNat)]
  moduleDispatch := false
  localeCode
  source := .entity

/-- Asks which entity is at a path. -/
def askLookup (entities : EntityResolver) (path : String) (scope : Scope) :
    Traced EntityCall RoutingError (Option EntityRef) :=
  ⟨[.lookup path scope], (entities.lookup path scope).mapError .collaborator⟩

/-- Asks for the controller of a generic page. -/
def askPageController (entities : EntityResolver) (id : UInt64) (scope : Scope) :
    Traced EntityCall RoutingError (Option String) :=
  ⟨[.pageController id scope], (entities.pageController id scope).mapError .collaborator⟩

/-- The path as the entity resolver knows it. -/
def entityPath (n : Request.NormalizedPath) : String :=
  String.ofList (n.path.toList.dropWhile (· == '/'))

/-- Asks the entity resolver. A generic page without a controller is no match. -/
def lookupEntity (entities : EntityResolver) (n : Request.NormalizedPath) (scope : Scope) :
    Traced EntityCall RoutingError (Option RouteMatch) :=
  if entityPath n = "" then .ok none
  else do
    match ← askLookup entities (entityPath n) scope with
    | none => pure none
    | some hit =>
        match hit.kind.routeId?, hit.kind.controller? with
        | some routeId, some controller =>
            pure (some (entityMatch hit routeId controller n.localeCode))
        | _, _ =>
            match ← askPageController entities hit.id scope with
            | some page => pure (some (entityMatch hit page page n.localeCode))
            | none => pure none

/-- The parameters that a match has from its groups. -/
def boundParams (captures : List (String × String)) : Params :=
  .ofList (captures.filter fun capture => !internalGroups.contains capture.1)

/-- The controller that a route selects, before the names of modules are split off: its target,
or else the bound parameter `controller`. -/
def selectedController (t : Template) (bound : Params) : Option String :=
  t.target.or (bound.get? "controller")

/-- The parameters and the controller once the name of a module has been split off. -/
def splitModule (params : Params) (controller : Option String) : Params × Option String :=
  match controller.bind fun name => Request.splitModule? name.toList with
  | some (moduleName, inner) =>
      ((params.insert "module" (String.ofList moduleName)).insert "fc" "module",
        some (String.ofList inner))
  | none => (params, controller)

/-- The match of a route whose pattern matched. -/
def routeMatch (settings : Settings) (route : Route) (captures : List (String × String))
    (localeCode : Option String) : RouteMatch :=
  let bound := boundParams captures
  let (params, selected) := splitModule (bound.insertAll route.template.params.entries)
    (selectedController route.template bound)
  let moduleDispatch := params.get? "fc" == some "module"
  let controller := match selected with
    | some name =>
        if name ≠ "" ∧ name ≠ Families.indexId then name
        else defaultController settings moduleDispatch
    | none => defaultController settings moduleDispatch
  { routeId := route.routeId
    controller := Request.controllerName controller
    params
    moduleDispatch
    localeCode
    source := .route }

/-- The match that a route gives for a path, if it may match and does. -/
def tryRoute (settings : Settings) (n : Request.NormalizedPath) (route : Route) :
    Option RouteMatch :=
  if route.template.mayMatch then
    (route.captures n.path).map fun captures => routeMatch settings route captures n.localeCode
  else none

/-- The match of the first route that gives one. -/
def scan (settings : Settings) (n : Request.NormalizedPath) (routes : List Handle) :
    Option RouteMatch :=
  routes.findSome? fun handle => tryRoute settings n handle.route

/-- What a match or its absence resolves to. -/
def ofMatch? : Option RouteMatch → Resolution
  | some found => .matched found
  | none => .notFound

/-- Resolves a request whose query names no controller, below templated routing. -/
def resolvePath (table : Table) (entities : EntityResolver) (settings : Settings)
    (scope : Scope) (n : Request.NormalizedPath) :
    Traced EntityCall RoutingError Resolution :=
  if Request.isStaticAsset n.path then .ok .notFound
  else if n.path = "" ∨ n.indexScript = true then
    .ok (.matched (indexMatch settings n.localeCode))
  else do
    match ← lookupEntity entities n scope with
    | some found => pure (.matched found)
    | none => pure (ofMatch? (scan settings n (table.routes scope)))

end Resolve

/-- Resolves a request. The trace holds the questions to the entity resolver. -/
def resolve (table : Table) (entities : EntityResolver) (settings : Settings)
    (context : RequestContext) : Traced EntityCall RoutingError Resolution :=
  match Resolve.explicitMatch? context.path with
  | some found => .ok (.matched found)
  | none =>
      if context.templatedRouting then
        Resolve.resolvePath table entities settings context.scope
          (Request.normalize context.path context.baseUri context.multiLocale)
      else .ok (.matched (Resolve.indexMatch settings none))

end Waymark
