import Waymark.Snapshot
import Waymark.Proofs.Load.Effect

/-! # What the buckets of a table hold

A table is put together from compiled routes, each of which goes under its own id. Loading does
nothing else.
-/

namespace Waymark

open CompileCache (Explained)

/-- A route is what its template compiles to. -/
def Route.IsCompiled (r : Route) : Prop := compile r.template = .ok r

theorem Route.isCompiled_of_compile {t : Template} {r : Route} (h : compile t = .ok r) :
    r.IsCompiled := by
  rw [IsCompiled, (compile_eq_ok h).1]
  exact h

namespace Table

/-- Tables that are put together from compiled routes. -/
inductive Built : Table → Prop
  | empty : Built empty
  | insert {table : Table} {handle : Handle} (scope : Scope) (htable : Built table)
      (hroute : handle.route.IsCompiled) : Built (table.insert scope handle)
  | pushLast {table : Table} {handle : Handle} (scope : Scope) (htable : Built table)
      (hroute : handle.route.IsCompiled) : Built (table.pushLast scope handle)
  | setFamilies {table : Table} (tenant : TenantId) (families : FamilyMap)
      (htable : Built table) : Built (table.setFamilies tenant families)

/-- What a scope has under an id is a compiled route with that id. -/
theorem Built.spec {table : Table} (h : Built table) {scope : Scope} {routeId : String}
    {handle : Handle} (hget : table.get? scope routeId = some handle) :
    handle.route.routeId = routeId ∧ handle.route.IsCompiled := by
  unfold get? at hget
  induction h with
  | empty => cases hget
  | @insert table added other htable hroute ih =>
      rw [bucket_insert] at hget
      split at hget
      next =>
        rw [OrderedMap.get?_insert] at hget
        split at hget
        next hid =>
          cases hget
          exact ⟨hid, hroute⟩
        next => exact ih hget
      next => exact ih hget
  | @pushLast table added other htable hroute ih =>
      rw [bucket_pushLast] at hget
      split at hget
      next =>
        rw [OrderedMap.get?_insert] at hget
        split at hget
        next hid =>
          cases hget
          exact ⟨hid, hroute⟩
        next hne =>
          rw [OrderedMap.get?_erase_ne hne] at hget
          exact ih hget
      next => exact ih hget
  | setFamilies tenant families htable ih => exact ih hget

/-- The routes that are tried in a scope are those that it has under some id. -/
theorem mem_routes_iff {table : Table} {scope : Scope} {handle : Handle} :
    handle ∈ table.routes scope ↔ ∃ routeId, table.get? scope routeId = some handle := by
  have hvalues : handle ∈ table.routes scope ↔ handle ∈ (table.bucket scope).values := by
    unfold routes
    dsimp only
    rw [List.mem_append, List.mem_filter, List.mem_filter]
    cases handle.route.isEmptyRule <;> simp
  rw [hvalues]
  constructor
  · intro hmem
    obtain ⟨⟨routeId, _⟩, hentry, rfl⟩ := List.mem_map.mp hmem
    exact ⟨routeId, OrderedMap.get?_of_mem hentry⟩
  · rintro ⟨routeId, hget⟩
    exact List.mem_map.mpr ⟨_, OrderedMap.mem_of_get? hget, rfl⟩

/-- A route that is tried in a scope is what the scope has under the id of the route. -/
theorem Built.get?_of_mem_routes {table : Table} (h : Built table) {scope : Scope}
    {handle : Handle} (hmem : handle ∈ table.routes scope) :
    table.get? scope handle.route.routeId = some handle := by
  obtain ⟨routeId, hget⟩ := mem_routes_iff.mp hmem
  rwa [(h.spec hget).1]

end Table

namespace LoadState

variable {state : LoadState}

theorem built_apply (htable : state.table.Built) (hcache : Explained (fun _ _ => True) state.cache)
    (step : LoadStep) : (state.apply step).table.Built := by
  cases step with
  | add scope t =>
      unfold apply
      dsimp only
      split
      next handle after hget =>
        obtain ⟨-, t', -, -, hroute⟩ := hcache.get trivial hget
        exact .insert scope htable (Route.isCompiled_of_compile hroute)
      next => exact htable
  | refuse scope cause => exact htable
  | addIndex scope =>
      unfold apply
      dsimp only
      split
      next handle after hget =>
        obtain ⟨-, t', -, -, hroute⟩ := hcache.get trivial hget
        exact .pushLast scope htable (Route.isCompiled_of_compile hroute)
      next => exact htable
  | setFamilies tenant families => exact .setFamilies tenant families htable

theorem built_applyAll (htable : state.table.Built)
    (hcache : Explained (fun _ _ => True) state.cache) (steps : List LoadStep) :
    (state.applyAll steps).table.Built := by
  induction steps generalizing state with
  | nil => exact htable
  | cons step steps ih =>
      have huses : step.Uses fun _ _ => True := by
        cases step <;> trivial
      exact ih (built_apply htable hcache step) (explained_apply hcache huses)

end LoadState

/-- The table of a snapshot is put together from compiled routes, wherever the cache has its
entries from. -/
theorem Snapshot.built_of_load {provider : Provider} {settings : Settings}
    {entities : EntityResolver} {cache : CompileCache} {s : Snapshot}
    (hcache : Explained (fun _ _ => True) cache)
    (h : (load provider settings entities cache).outcome = .ok s) : s.table.Built := by
  obtain ⟨baseUris, -, rfl⟩ := map_eq_ok.mp h
  exact LoadState.built_applyAll .empty hcache _

end Waymark
