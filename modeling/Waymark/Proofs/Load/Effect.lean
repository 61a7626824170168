import Waymark.Proofs.CompileCache
import Waymark.Proofs.Load.Steps

/-! # What loading does to the routes of a scope

As long as the cache is transparent, a step compiles its template and writes the route to the
scope. So the routes of a scope come out of a list of writes, and steps for other scopes do not
matter.
-/

namespace Waymark

open CompileCache (Explained)

theorem CompileCache.Explained.compile_of_get {used : TenantId → Template → Prop}
    {cache after : CompileCache} {tenant : TenantId} {t : Template} {handle : Handle}
    (h : Explained used cache) (ht : used tenant t)
    (hdistinct : ∀ t', used tenant t' → t'.fingerprint = t.fingerprint → t' = t)
    (hget : cache.get tenant t = .ok (handle, after)) : Route.compile t = .ok handle.route := by
  obtain ⟨-, t', ht', hmark, hroute⟩ := h.get ht hget
  rw [← hdistinct t' ht' hmark]
  exact hroute

theorem Route.routeId_of_compile {t : Template} {r : Route} (h : compile t = .ok r) :
    r.routeId = t.routeId :=
  congrArg Template.routeId (compile_eq_ok h).1

namespace Template

/-- The route that a template compiles to. -/
def route? (t : Template) : Option Route := (Route.compile t).toOption

theorem route?_eq_some {t : Template} {r : Route} :
    t.route? = some r ↔ Route.compile t = .ok r := by
  unfold route?
  cases Route.compile t with
  | error => simp [Except.toOption]
  | ok => simp [Except.toOption]

theorem route?_eq_none {t : Template} {cause : CompileError} (h : Route.compile t = .error cause) :
    t.route? = none := by
  unfold route?
  rw [h]
  rfl

/-- The routes of the templates that compile, under their ids. -/
def compiled (ts : List Template) : List (String × Route) :=
  ts.filterMap fun t => t.route?.map fun route => (t.routeId, route)

theorem compiled_append (first second : List Template) :
    compiled (first ++ second) = compiled first ++ compiled second :=
  List.filterMap_append

end Template

theorem Families.compile_index : ∃ route, Route.compile index = .ok route := by
  have hsegments : Rule.segments index = .ok [] :=
    Rule.segments_of_pieces (Rule.Piece.ofRule_of_braceless (by decide))
  exact ⟨_, Route.compile_of_reads hsegments rfl rfl (by decide)⟩

namespace Table

variable {table : Table} {scope other : Scope} {handle : Handle}

theorem bucket_insert : (table.insert other handle).bucket scope =
    if other = scope then (table.bucket scope).insert handle.route.routeId handle
    else table.bucket scope := by
  unfold insert bucket
  rw [OrderedMap.get?_insert]
  split
  next heq =>
    subst heq
    rfl
  next => rfl

theorem bucket_pushLast : (table.pushLast other handle).bucket scope =
    if other = scope then
      ((table.bucket scope).erase handle.route.routeId).insert handle.route.routeId handle
    else table.bucket scope := by
  unfold pushLast bucket
  rw [OrderedMap.get?_insert]
  split
  next heq =>
    subst heq
    rfl
  next => rfl

end Table

namespace LoadStep

/-- The template that a step puts into a scope. -/
def puts? (scope : Scope) : LoadStep → Option Template
  | .add other t => if other = scope then some t else none
  | _ => none

/-- What a step asks the cache for is in use. -/
def Uses (used : TenantId → Template → Prop) : LoadStep → Prop
  | .add scope t => used scope.tenant t
  | .addIndex scope => used scope.tenant Families.index
  | _ => True

end LoadStep

namespace LoadState

/-- The routes of a scope by id, no matter which objects they are. -/
def routes (state : LoadState) (scope : Scope) : OrderedMap String Route :=
  (state.table.bucket scope).mapValues Handle.route

variable {used : TenantId → Template → Prop} {state : LoadState} {step : LoadStep} {scope : Scope}

theorem explained_apply (h : Explained used state.cache) (hstep : step.Uses used) :
    Explained used (state.apply step).cache := by
  cases step with
  | add scope t =>
      unfold apply
      dsimp only
      split
      next handle after hget => exact (h.get hstep hget).1
      next => exact h
  | refuse scope cause => exact h
  | addIndex scope =>
      unfold apply
      dsimp only
      split
      next handle after hget => exact (h.get hstep hget).1
      next => exact h
  | setFamilies tenant families => exact h

theorem explained_applyAll {steps : List LoadStep} (h : Explained used state.cache)
    (hsteps : ∀ step ∈ steps, step.Uses used) : Explained used (state.applyAll steps).cache := by
  induction steps generalizing state with
  | nil => exact h
  | cons step steps ih =>
      have hafter := explained_apply h (hsteps step List.mem_cons_self)
      exact ih hafter fun step hstep => hsteps step (List.mem_cons_of_mem _ hstep)

/-- Every template that a tenant uses has a fingerprint of its own. -/
def Distinct (used : TenantId → Template → Prop) (tenant : TenantId) : Prop :=
  ∀ t t', used tenant t → used tenant t' → t'.fingerprint = t.fingerprint → t' = t

/-- A step that is not for the index of a scope writes to it the route that it puts there. -/
theorem routes_apply (hdistinct : Distinct used scope.tenant) (h : Explained used state.cache)
    (hstep : step.Uses used) (hindex : step ≠ .addIndex scope) :
    (state.apply step).routes scope =
      (state.routes scope).insertAll (Template.compiled (step.puts? scope).toList) := by
  cases step with
  | add other t =>
      unfold apply routes LoadStep.puts?
      dsimp only
      by_cases heq : other = scope
      · subst heq
        rw [if_pos rfl]
        split
        next handle after hget =>
          have hroute := h.compile_of_get hstep (fun t' ht' => hdistinct t t' hstep ht') hget
          rw [Table.bucket_insert, if_pos rfl, OrderedMap.mapValues_insert,
            Route.routeId_of_compile hroute]
          simp [Template.compiled, Template.route?_eq_some.mpr hroute, OrderedMap.insertAll]
        next cause hget =>
          have hcause := CompileCache.compile_of_get_eq_error hget
          simp [Template.compiled, Template.route?_eq_none hcause, OrderedMap.insertAll]
      · rw [if_neg heq]
        split
        next =>
          rw [Table.bucket_insert, if_neg heq]
          rfl
        next => rfl
  | refuse other cause => rfl
  | addIndex other =>
      -- the index of another scope
      have hne : other ≠ scope := fun heq => hindex (heq ▸ rfl)
      unfold apply routes
      dsimp only
      split
      next =>
        rw [Table.bucket_pushLast, if_neg hne]
        rfl
      next => rfl
  | setFamilies tenant families => rfl

/-- Steps without the index of a scope write to it the routes that they put there, in turn. -/
theorem routes_applyAll {steps : List LoadStep} (hdistinct : Distinct used scope.tenant)
    (h : Explained used state.cache) (hsteps : ∀ step ∈ steps, step.Uses used)
    (hindex : .addIndex scope ∉ steps) :
    (state.applyAll steps).routes scope = (state.routes scope).insertAll
      (Template.compiled (steps.filterMap (LoadStep.puts? scope))) := by
  induction steps generalizing state with
  | nil => rfl
  | cons step steps ih =>
      obtain ⟨hfirst, hrest⟩ := not_or.mp (List.mem_cons.not.mp hindex)
      have hstep := hsteps step List.mem_cons_self
      have hafter := explained_apply h hstep
      have hrun : state.applyAll (step :: steps) = (state.apply step).applyAll steps := rfl
      have hputs : (step :: steps).filterMap (LoadStep.puts? scope) =
          (step.puts? scope).toList ++ steps.filterMap (LoadStep.puts? scope) := by
        cases hputs : step.puts? scope with
        | none => simp [hputs]
        | some t => simp [hputs]
      rw [hrun, ih hafter (fun step hstep => hsteps step (List.mem_cons_of_mem _ hstep)) hrest,
        routes_apply hdistinct h hstep (Ne.symm hfirst), ← OrderedMap.insertAll_append,
        ← Template.compiled_append, ← hputs]

/-- The index goes to the end of its scope. -/
theorem routes_addIndex {index : Route} (hcompile : Route.compile Families.index = .ok index)
    (hdistinct : Distinct used scope.tenant) (h : Explained used state.cache)
    (hused : used scope.tenant Families.index) :
    (state.apply (.addIndex scope)).routes scope =
      ((state.routes scope).erase Families.indexId).insert Families.indexId index := by
  unfold apply routes
  dsimp only
  split
  next handle after hget =>
    have hroute := h.compile_of_get hused (fun t' ht' => hdistinct _ t' hused ht') hget
    rw [Table.bucket_pushLast, if_pos rfl, OrderedMap.mapValues_insert,
      OrderedMap.mapValues_erase, Route.routeId_of_compile hroute]
    obtain rfl : handle.route = index := Except.ok.inj (hroute.symm.trans hcompile)
    rfl
  next cause hget =>
    rw [CompileCache.compile_of_get_eq_error hget] at hcompile
    cases hcompile

end LoadState

end Waymark
