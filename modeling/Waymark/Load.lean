import Waymark.Provider
import Waymark.Traced

/-! # Loading a route table

What is loaded, and in which order, depends on the provider alone, so it is worked out first, as
a list of steps; `LoadState.apply` carries the steps out. For each tenant and each of its
locales the order is: the route families; the pages, longest URL first; the custom rules, each
of which replaces the rule of its family in place; and the index, always last. Pages and custom
rules are for templated routing only.

When the provider fails in the middle, the steps worked out until then are still carried out:
what they add to the compile cache stays there.
-/

namespace Waymark

/-- One step of loading. -/
inductive LoadStep where
  /-- Puts a route into a scope. -/
  | add (scope : Scope) (t : Template)
  /-- Leaves out a custom rule that does not suit its family. -/
  | refuse (scope : Scope) (cause : ValidationError)
  /-- Puts the index at the end of a scope. -/
  | addIndex (scope : Scope)
  /-- Records the families of a tenant. -/
  | setFamilies (tenant : TenantId) (families : FamilyMap)

/-- Steps that are worked out by asking a provider. -/
abbrev Plan (α : Type) : Type := Traced LoadStep CollaboratorError α

namespace Plan

/-- Pages in the order in which they are tried: longest URL first. -/
def sortPages (pages : List PageRoute) : List PageRoute :=
  pages.mergeSort fun a b => b.url.utf8ByteSize ≤ a.url.utf8ByteSize

/-- Whether a page is loaded in a locale. -/
def isServed (locale : LocaleId) (p : PageRoute) : Bool :=
  p.locale = locale && p.url != ""

/-- The step for a family's custom rule. -/
def overrideStep (scope : Scope) (family : Template) (rule : String) : LoadStep :=
  match family.validateRule rule true with
  | .ok _ => .add scope (family.withRule rule)
  | .error cause => .refuse scope cause

/-- Plans the custom rule of one family. -/
def override (provider : Provider) (scope : Scope) (entry : String × Template) : Plan PUnit := do
  match ← Traced.ofExcept (provider.overrideRule entry.1 scope) with
  | none => pure ⟨⟩
  | some rule => Traced.note (overrideStep scope entry.2 rule)

/-- Plans the routes of one scope. -/
def scope (provider : Provider) (templated : Bool) (families : FamilyMap)
    (pages : List PageRoute) (scope : Scope) : Plan PUnit := do
  Traced.forEach families.values fun t => Traced.note (.add scope t)
  if templated then
    Traced.forEach (pages.filter (isServed scope.locale)) fun p =>
      Traced.note (.add scope p.toTemplate)
    Traced.forEach families.entries (override provider scope)
  Traced.note (.addIndex scope)

/-- Plans the routes of one tenant. -/
def tenant (provider : Provider) (templated : Bool) (tenant : TenantId) : Plan PUnit := do
  let families ← Traced.ofExcept (provider.definitions tenant)
  let pages ← Traced.ofExcept (if templated then provider.pageRoutes tenant else .ok [])
  let locales ← Traced.ofExcept (provider.locales tenant)
  Traced.forEach locales fun locale =>
    scope provider templated families (sortPages pages) ⟨tenant, locale⟩
  Traced.note (.setFamilies tenant families)

/-- Plans a whole table. -/
def table (provider : Provider) (templated : Bool) : Plan PUnit := do
  let tenants ← Traced.ofExcept provider.tenants
  Traced.forEach tenants (tenant provider templated)

/-- Asks where tenants are mounted. -/
def baseUris (provider : Provider) : List TenantId → OrderedMap TenantId String →
    Except CollaboratorError (OrderedMap TenantId String)
  | [], acc => .ok acc
  | tenant :: rest, acc => do
      let uri ← provider.baseUri tenant
      baseUris provider rest (acc.insert tenant uri)

/-- Plans a table and asks where its tenants are mounted. -/
def mounted (provider : Provider) (templated : Bool) : Plan (OrderedMap TenantId String) := do
  table provider templated
  let tenants ← Traced.ofExcept provider.tenants
  Traced.ofExcept (baseUris provider tenants .empty)

end Plan

/-- A table that is being loaded. -/
structure LoadState where
  table : Table
  cache : CompileCache
  /-- How many routes and custom rules were left out. -/
  rejected : Nat

namespace LoadState

/-- The start of loading. -/
def initial (cache : CompileCache) : LoadState := ⟨.empty, cache, 0⟩

/-- Carries out a step. A route that does not compile is left out. -/
def apply (state : LoadState) : LoadStep → LoadState
  | .add scope t =>
      match state.cache.get scope.tenant t with
      | .ok (handle, cache) => { state with table := state.table.insert scope handle, cache }
      | .error _ => { state with rejected := state.rejected + 1 }
  | .refuse _ _ => { state with rejected := state.rejected + 1 }
  | .addIndex scope =>
      match state.cache.get scope.tenant Families.index with
      | .ok (handle, cache) => { state with table := state.table.pushLast scope handle, cache }
      | .error _ => state
  | .setFamilies tenant families =>
      { state with table := state.table.setFamilies tenant families }

/-- Carries out steps in order. -/
def applyAll (state : LoadState) (steps : List LoadStep) : LoadState := steps.foldl apply state

end LoadState

end Waymark
