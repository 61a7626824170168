import Waymark.Registry

/-! # A registry in use

Clients of a registry keep routers, which are views of the snapshot that was current when they
were taken, and resolve and build through them. A service is a registry together with the routers
that are kept, by name, and with all that was counted and asked so far.
-/

namespace Waymark

/-- A registry with its clients. -/
structure Service where
  registry : Registry
  /-- The snapshots of the routers that are kept. -/
  kept : OrderedMap String Snapshot
  /-- What was counted. -/
  events : List Event
  /-- What the entity resolvers were asked. -/
  calls : List EntityCall

namespace Service

/-- A service with its first snapshot. -/
def start (provider : Provider) (settings : Settings) (entities : EntityResolver) :
    Except CollaboratorError Service :=
  let started := Registry.start provider settings entities
  started.outcome.map fun registry => ⟨registry, .empty, started.trace, []⟩

/-- The snapshot that a new router views. -/
def current (s : Service) : Snapshot := s.registry.current

/-- Keeps a router under a name and releases what the name kept. -/
def keep (s : Service) (name : String) (router : Snapshot) : Service :=
  { s with kept := s.kept.insert name router }

/-- Releases the router of a name. -/
def release (s : Service) (name : String) : Service := { s with kept := s.kept.erase name }

/-- Counts events. -/
def count (s : Service) (events : List Event) : Service :=
  { s with events := s.events ++ events }

/-- Reloads from a provider. -/
def reload (s : Service) (provider : Provider) (settings : Settings) (entities : EntityResolver) :
    Except CollaboratorError Unit × Service :=
  let reloaded := s.registry.reload s.kept.values provider settings entities
  (reloaded.outcome, { s with registry := reloaded.registry }.count reloaded.events)

/-- Builds a snapshot with the registry's cache, which may fail, without publishing it. -/
def load (s : Service) (provider : Provider) (settings : Settings) (entities : EntityResolver) :
    Except CollaboratorError Snapshot × Service :=
  let loaded := Snapshot.load provider settings entities s.registry.cache
  (loaded.outcome, { s with registry := { s.registry with cache := loaded.cache } }.count
    (Registry.rejections loaded.rejected))

/-- Publishes a snapshot. -/
def publish (s : Service) (snapshot : Snapshot) : Service :=
  { s with registry := s.registry.publish s.kept.values snapshot }.count
    [.routes snapshot.table.size]

/-- Resolves a request through a router. -/
def resolve (s : Service) (router : Snapshot) (context : RequestContext) :
    Except RoutingError Resolution × Service :=
  let answer := router.resolve context
  (answer.outcome, { s with calls := s.calls ++ answer.trace }.count
    [.resolution (.ofResult answer.outcome)])

/-- The calls among the steps of building. -/
def callsOf (steps : List BuildStep) : List EntityCall :=
  steps.filterMap fun step => match step with
    | .asked call => some call
    | .mode _ => none

/-- The events among the steps of building. -/
def eventsOf (steps : List BuildStep) : List Event :=
  steps.filterMap fun step => match step with
    | .asked _ => none
    | .mode chosen => some (.build chosen)

/-- Records the steps of building a URL. -/
def built (s : Service) (url : Traced BuildStep RoutingError String) :
    Except RoutingError String × Service :=
  (url.outcome, { s with calls := s.calls ++ callsOf url.trace }.count (eventsOf url.trace))

/-- Builds a URL through a router. -/
def build (s : Service) (router : Snapshot) (scope : Scope) (routeId : String) (params : Params)
    (templated : Bool) (anchor : String) : Except RoutingError String × Service :=
  s.built (router.build scope routeId params templated anchor)

/-- How often each question was asked: look-ups, URLs, and controllers of pages. -/
def callCounts (s : Service) : List Nat :=
  [s.calls.countP fun call => call matches .lookup _ _,
    s.calls.countP fun call => call matches .reverse _ _ _ _,
    s.calls.countP fun call => call matches .pageController _ _]

end Service

end Waymark
