import Waymark.CompileCache

/-! # Route tables

Compiled routes by scope. Within a scope the routes go by their ids in order of priority:
inserting a route under an id that is present replaces the route where it stands, pushing it
last moves it to the end. Routes with an empty rule are tried after all others, wherever they
stand. A table also keeps the families that each tenant's routes were made from.
-/

namespace Waymark

/-- The routes of one scope by id. -/
abbrev Bucket : Type := OrderedMap String Handle

/-- Route families by id. -/
abbrev FamilyMap : Type := OrderedMap String Template

/-- Compiled routes by scope. -/
structure Table where
  buckets : OrderedMap Scope Bucket
  families : OrderedMap TenantId FamilyMap

namespace Table

/-- The table without routes. -/
def empty : Table := ⟨.empty, .empty⟩

/-- The routes of a scope. -/
def bucket (table : Table) (scope : Scope) : Bucket := (table.buckets.get? scope).getD .empty

/-- Puts a route into a scope. An id that is present keeps its place. -/
def insert (table : Table) (scope : Scope) (handle : Handle) : Table :=
  { table with
    buckets := table.buckets.insert scope
      ((table.bucket scope).insert handle.route.routeId handle) }

/-- Puts a route at the end of a scope. -/
def pushLast (table : Table) (scope : Scope) (handle : Handle) : Table :=
  { table with
    buckets := table.buckets.insert scope
      (((table.bucket scope).erase handle.route.routeId).insert handle.route.routeId handle) }

/-- Compiles a template for one scope. -/
def add (table : Table) (scope : Scope) (t : Template) : Except CompileError Table :=
  (Route.compile t).map fun route => table.insert scope ⟨route, none⟩

/-- Compiles a template and puts it at the end of a scope. -/
def addLast (table : Table) (scope : Scope) (t : Template) : Except CompileError Table :=
  (Route.compile t).map fun route => table.pushLast scope ⟨route, none⟩

/-- The route of a scope with an id. -/
def get? (table : Table) (scope : Scope) (routeId : String) : Option Handle :=
  (table.bucket scope).get? routeId

/-- Whether a scope has a route with an id. -/
def hasRoute (table : Table) (scope : Scope) (routeId : String) : Bool :=
  (table.get? scope routeId).isSome

/-- Whether the rule of a route mentions a keyword. -/
def hasKeyword (table : Table) (scope : Scope) (routeId keyword : String) : Bool :=
  (table.get? scope routeId).any fun h => Rule.mentions h.route.template.rule keyword

/-- The routes of a scope in the order in which they are tried: those with an empty rule come
last. -/
def routes (table : Table) (scope : Scope) : List Handle :=
  let all := (table.bucket scope).values
  all.filter (fun h => !h.route.isEmptyRule) ++ all.filter (fun h => h.route.isEmptyRule)

/-- Sets the families of a tenant. -/
def setFamilies (table : Table) (tenant : TenantId) (families : FamilyMap) : Table :=
  { table with families := table.families.insert tenant families }

/-- The family of a tenant with an id. -/
def family? (table : Table) (tenant : TenantId) (routeId : String) : Option Template :=
  (table.families.get? tenant).bind (·.get? routeId)

/-- The scopes with routes, in order. -/
def scopes (table : Table) : List Scope := table.buckets.keys.mergeSort Scope.le

/-- All routes of all scopes. -/
def handles (table : Table) : List Handle := table.buckets.values.flatMap OrderedMap.values

/-- The number of routes in all scopes. -/
def size (table : Table) : Nat := table.handles.length

end Table

end Waymark
