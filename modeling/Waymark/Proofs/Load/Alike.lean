import Waymark.Proofs.Load.Effect

/-! # Loads that are the same for a tenant

Two loads may carry out different steps, each with a cache of its own. A tenant sees nothing of
that as long as its own steps are the same and both caches answer them with the same routes: the
steps for other tenants write to other scopes and to other entries of the cache.
-/

namespace Waymark

namespace CompileCache

variable {cache : CompileCache} {tenant : TenantId} {t : Template}

/-- The route that a tenant has in a cache under a fingerprint, no matter which object it is. -/
def routeAt (cache : CompileCache) (tenant : TenantId) (mark : String) : Option Route :=
  (cache.entries.get? (tenant, mark)).map Handle.route

/-- The route that a cache answers for a template, if it answers one. -/
def served? (cache : CompileCache) (tenant : TenantId) (t : Template) : Option Route :=
  (cache.routeAt tenant t.fingerprint).or t.route?

/-- Either a cache answers a route and has it then, or the template does not compile. -/
theorem get_cases (cache : CompileCache) (tenant : TenantId) (t : Template) :
    (∃ handle after, cache.get tenant t = .ok (handle, after) ∧
      cache.served? tenant t = some handle.route ∧
      ∀ other mark, after.routeAt other mark =
        if (tenant, t.fingerprint) = (other, mark) then some handle.route
        else cache.routeAt other mark) ∨
    ∃ cause, cache.get tenant t = .error cause ∧ cache.served? tenant t = none := by
  unfold get served? routeAt find?
  cases hfound : cache.entries.get? (tenant, t.fingerprint) with
  | some handle =>
      refine .inl ⟨handle, cache, rfl, rfl, fun other mark => ?_⟩
      split
      next heq => rw [← heq, hfound, Option.map_some]
      next => rfl
  | none =>
      cases hroute : Route.compile t with
      | ok route =>
          have hserved : t.route? = some route := Template.route?_eq_some.mpr hroute
          refine .inl ⟨⟨route, some cache.nextSlot⟩, _, rfl, hserved, fun other mark => ?_⟩
          dsimp only
          rw [OrderedMap.get?_insert]
          split
          next => rfl
          next => rfl
      | error cause => exact .inr ⟨cause, rfl, Template.route?_eq_none hroute⟩

/-- A cache is transparent for the templates in use that have fingerprints of their own. -/
theorem Explained.served?_eq {used : TenantId → Template → Prop} (h : Explained used cache)
    (ht : used tenant t)
    (hdistinct : ∀ t', used tenant t' → t'.fingerprint = t.fingerprint → t' = t) :
    cache.served? tenant t = t.route? := by
  rcases cache.get_cases tenant t with ⟨handle, after, hget, hserved, -⟩ | ⟨cause, hget, hserved⟩
  · rw [hserved, Template.route?_eq_some.mpr (h.compile_of_get ht hdistinct hget)]
  · rw [hserved, Template.route?_eq_none (compile_of_get_eq_error hget)]

/-- Two caches that answer the same route for a template both answer an object with it, or both
none. -/
theorem get_alike {other : CompileCache}
    (h : cache.served? tenant t = other.served? tenant t) :
    (∃ answer answer', cache.get tenant t = .ok answer ∧ other.get tenant t = .ok answer' ∧
      answer.1.route = answer'.1.route) ∨
    ∃ cause cause', cache.get tenant t = .error cause ∧ other.get tenant t = .error cause' := by
  rcases cache.get_cases tenant t with ⟨handle, after, hget, hroute, -⟩ | ⟨cause, hget, hnone⟩
  · rcases other.get_cases tenant t with ⟨_, _, hget', hroute', -⟩ | ⟨_, _, hnone'⟩
    · exact .inl ⟨_, _, hget, hget', Option.some.inj (hroute.symm.trans (h.trans hroute'))⟩
    · cases hroute.symm.trans (h.trans hnone')
  · rcases other.get_cases tenant t with ⟨_, _, _, hroute', -⟩ | ⟨cause', hget', -⟩
    · cases hnone.symm.trans (h.trans hroute')
    · exact .inr ⟨cause, cause', hget, hget'⟩

end CompileCache

/-! ## Tables -/

namespace Table

/-- Two tables have the same routes and the same families for a tenant, whichever objects the
routes are. -/
structure AlikeAt (tenant : TenantId) (a b : Table) : Prop where
  routes : ∀ locale, (a.bucket ⟨tenant, locale⟩).mapValues Handle.route =
    (b.bucket ⟨tenant, locale⟩).mapValues Handle.route
  families : a.families.get? tenant = b.families.get? tenant

variable {tenant : TenantId} {a b c : Table} {scope : Scope} {handle handle' : Handle}

theorem AlikeAt.refl (tenant : TenantId) (a : Table) : a.AlikeAt tenant a :=
  ⟨fun _ => rfl, rfl⟩

theorem AlikeAt.symm (h : a.AlikeAt tenant b) : b.AlikeAt tenant a :=
  ⟨fun locale => (h.routes locale).symm, h.families.symm⟩

theorem AlikeAt.trans (h : a.AlikeAt tenant b) (h' : b.AlikeAt tenant c) : a.AlikeAt tenant c :=
  ⟨fun locale => (h.routes locale).trans (h'.routes locale), h.families.trans h'.families⟩

theorem AlikeAt.insert (h : a.AlikeAt tenant b) (scope : Scope)
    (hroute : handle.route = handle'.route) :
    (a.insert scope handle).AlikeAt tenant (b.insert scope handle') := by
  refine ⟨fun locale => ?_, h.families⟩
  rw [bucket_insert, bucket_insert]
  split
  next => rw [OrderedMap.mapValues_insert, OrderedMap.mapValues_insert, h.routes, hroute]
  next => exact h.routes locale

theorem AlikeAt.pushLast (h : a.AlikeAt tenant b) (scope : Scope)
    (hroute : handle.route = handle'.route) :
    (a.pushLast scope handle).AlikeAt tenant (b.pushLast scope handle') := by
  refine ⟨fun locale => ?_, h.families⟩
  rw [bucket_pushLast, bucket_pushLast]
  split
  next =>
    rw [OrderedMap.mapValues_insert, OrderedMap.mapValues_insert, OrderedMap.mapValues_erase,
      OrderedMap.mapValues_erase, h.routes, hroute]
  next => exact h.routes locale

theorem AlikeAt.setFamilies (h : a.AlikeAt tenant b) (id : TenantId) (families : FamilyMap) :
    (a.setFamilies id families).AlikeAt tenant (b.setFamilies id families) := by
  refine ⟨h.routes, ?_⟩
  unfold Table.setFamilies
  rw [OrderedMap.get?_insert, OrderedMap.get?_insert, h.families]

/-- The routes of a scope in the order in which they are tried come out of its bucket without the
objects. -/
theorem map_routes (table : Table) (scope : Scope) :
    (table.routes scope).map Handle.route =
      let all := ((table.bucket scope).mapValues Handle.route).values
      all.filter (fun r => !r.isEmptyRule) ++ all.filter (fun r => r.isEmptyRule) := by
  have hvalues : ((table.bucket scope).mapValues Handle.route).values =
      (table.bucket scope).values.map Handle.route := by
    simp [OrderedMap.values, OrderedMap.mapValues]
  dsimp only
  rw [hvalues, List.filter_map, List.filter_map, ← List.map_append]
  rfl

theorem AlikeAt.map_routes (h : a.AlikeAt tenant b) (locale : LocaleId) :
    (a.routes ⟨tenant, locale⟩).map Handle.route =
      (b.routes ⟨tenant, locale⟩).map Handle.route := by
  rw [Table.map_routes, Table.map_routes, h.routes]

/-! ### Writing for another tenant -/

theorem ne_of_tenant_ne (h : scope.tenant ≠ tenant) (locale : LocaleId) :
    scope ≠ ⟨tenant, locale⟩ := by
  rintro rfl
  exact h rfl

theorem alikeAt_insert (h : scope.tenant ≠ tenant) : (a.insert scope handle).AlikeAt tenant a := by
  refine ⟨fun locale => ?_, rfl⟩
  rw [bucket_insert, if_neg (ne_of_tenant_ne h locale)]

theorem alikeAt_pushLast (h : scope.tenant ≠ tenant) :
    (a.pushLast scope handle).AlikeAt tenant a := by
  refine ⟨fun locale => ?_, rfl⟩
  rw [bucket_pushLast, if_neg (ne_of_tenant_ne h locale)]

theorem alikeAt_setFamilies {id : TenantId} (h : id ≠ tenant) (families : FamilyMap) :
    (a.setFamilies id families).AlikeAt tenant a := by
  refine ⟨fun _ => rfl, ?_⟩
  unfold Table.setFamilies
  rw [OrderedMap.get?_insert, if_neg h]

end Table

/-! ## Steps -/

namespace LoadStep

/-- The tenant that a step is for. -/
def tenant : LoadStep → TenantId
  | .add scope _ => scope.tenant
  | .refuse scope _ => scope.tenant
  | .addIndex scope => scope.tenant
  | .setFamilies tenant _ => tenant

/-- The template that a step asks the cache for. -/
def template? : LoadStep → Option Template
  | .add _ t => some t
  | .addIndex _ => some Families.index
  | _ => none

theorem uses_iff {used : TenantId → Template → Prop} {step : LoadStep} :
    step.Uses used ↔ ∀ t, step.template? = some t → used step.tenant t := by
  cases step <;> simp [Uses, template?, tenant]

end LoadStep

namespace LoadState

open CompileCache (Explained)

variable {a b state : LoadState} {step : LoadStep} {steps : List LoadStep} {tenant : TenantId}

/-- A step writes nothing to the table for a tenant that it is not for. -/
theorem table_apply_of_ne (h : step.tenant ≠ tenant) :
    (state.apply step).table.AlikeAt tenant state.table := by
  cases step with
  | add scope t =>
      unfold apply
      dsimp only
      split
      next => exact Table.alikeAt_insert h
      next => exact .refl tenant _
  | refuse scope cause => exact .refl tenant _
  | addIndex scope =>
      unfold apply
      dsimp only
      split
      next => exact Table.alikeAt_pushLast h
      next => exact .refl tenant _
  | setFamilies id families => exact Table.alikeAt_setFamilies h families

/-- A step writes the same for a tenant to two tables, if the caches answer it with the same
route. -/
theorem table_apply (h : a.table.AlikeAt tenant b.table)
    (hserved : step.tenant = tenant → ∀ t, step.template? = some t →
      a.cache.served? tenant t = b.cache.served? tenant t) :
    (a.apply step).table.AlikeAt tenant (b.apply step).table := by
  by_cases htenant : step.tenant = tenant
  · cases step with
    | add scope t =>
        have hsame : a.cache.served? scope.tenant t = b.cache.served? scope.tenant t := by
          subst htenant
          exact hserved rfl t rfl
        unfold LoadState.apply
        rcases CompileCache.get_alike hsame with
          ⟨answer, answer', hget, hget', hroute⟩ | ⟨_, _, hget, hget'⟩
        · simp only [hget, hget']
          exact h.insert scope hroute
        · simp only [hget, hget']
          exact h
    | refuse scope cause => exact h
    | addIndex scope =>
        have hsame : a.cache.served? scope.tenant Families.index =
            b.cache.served? scope.tenant Families.index := by
          subst htenant
          exact hserved rfl Families.index rfl
        unfold LoadState.apply
        rcases CompileCache.get_alike hsame with
          ⟨answer, answer', hget, hget', hroute⟩ | ⟨_, _, hget, hget'⟩
        · simp only [hget, hget']
          exact h.pushLast scope hroute
        · simp only [hget, hget']
          exact h
    | setFamilies id families => exact h.setFamilies id families
  · exact ((table_apply_of_ne htenant).trans h).trans (table_apply_of_ne htenant).symm

/-! ### Loads with transparent caches -/

section Transparent

variable {used : TenantId → Template → Prop}

/-- The same steps load the same for a tenant whose templates have fingerprints of their own,
whatever the caches hold from before. -/
theorem table_applyAll (h : a.table.AlikeAt tenant b.table) (hdistinct : Distinct used tenant)
    (ha : Explained used a.cache) (hb : Explained used b.cache)
    (hsteps : ∀ step ∈ steps, step.Uses used) :
    (a.applyAll steps).table.AlikeAt tenant (b.applyAll steps).table := by
  induction steps generalizing a b with
  | nil => exact h
  | cons step steps ih =>
      have hstep := hsteps step List.mem_cons_self
      refine ih (table_apply h ?_) (explained_apply ha hstep) (explained_apply hb hstep)
        fun step hmem => hsteps step (List.mem_cons_of_mem _ hmem)
      -- both caches answer with the route of the template itself
      rintro rfl t ht
      have hused := LoadStep.uses_iff.mp hstep t ht
      have hown := fun t' ht' => hdistinct t t' hused ht'
      rw [ha.served?_eq hused hown, hb.served?_eq hused hown]

end Transparent

/-! ### Loads that differ in the steps for other tenants -/

/-- Two states of loading are the same for a tenant: its tables, and its routes in the caches. -/
structure AlikeAt (tenant : TenantId) (a b : LoadState) : Prop where
  table : a.table.AlikeAt tenant b.table
  cache : ∀ mark, a.cache.routeAt tenant mark = b.cache.routeAt tenant mark

theorem AlikeAt.refl (tenant : TenantId) (a : LoadState) : a.AlikeAt tenant a :=
  ⟨.refl tenant _, fun _ => rfl⟩

theorem AlikeAt.symm (h : a.AlikeAt tenant b) : b.AlikeAt tenant a :=
  ⟨h.table.symm, fun mark => (h.cache mark).symm⟩

theorem AlikeAt.trans {c : LoadState} (h : a.AlikeAt tenant b) (h' : b.AlikeAt tenant c) :
    a.AlikeAt tenant c :=
  ⟨h.table.trans h'.table, fun mark => (h.cache mark).trans (h'.cache mark)⟩

theorem cache_apply {t : Template} (h : step.template? = some t) :
    (state.apply step).cache =
      match state.cache.get step.tenant t with
      | .ok answer => answer.2
      | .error _ => state.cache := by
  cases step with
  | add scope t' =>
      cases h
      unfold apply LoadStep.tenant
      dsimp only
      cases state.cache.get scope.tenant t <;> rfl
  | refuse scope cause => cases h
  | addIndex scope =>
      cases h
      unfold apply LoadStep.tenant
      dsimp only
      cases state.cache.get scope.tenant Families.index <;> rfl
  | setFamilies id families => cases h

theorem cache_apply_of_none (h : step.template? = none) :
    (state.apply step).cache = state.cache := by
  cases step with
  | add scope t => cases h
  | refuse scope cause => rfl
  | addIndex scope => cases h
  | setFamilies id families => rfl

/-- What the cache answers a step, it has for the tenant of the step from then on. -/
theorem routeAt_apply {t : Template} (h : step.template? = some t) (mark : String) :
    (state.apply step).cache.routeAt tenant mark =
      if (step.tenant, t.fingerprint) = (tenant, mark) then state.cache.served? step.tenant t
      else state.cache.routeAt tenant mark := by
  rw [cache_apply h]
  rcases state.cache.get_cases step.tenant t with
    ⟨handle, after, hget, hserved, hafter⟩ | ⟨cause, hget, hnone⟩
  · simp only [hget, hserved, hafter]
  · simp only [hget, hnone]
    split
    next heq =>
      cases heq
      exact (Option.or_eq_none_iff.mp hnone).1
    next => rfl

/-- A step leaves the routes of other tenants in the cache as they are. -/
theorem routeAt_apply_of_ne (h : step.tenant ≠ tenant) (mark : String) :
    (state.apply step).cache.routeAt tenant mark = state.cache.routeAt tenant mark := by
  cases htemplate : step.template? with
  | some t => rw [routeAt_apply htemplate, if_neg fun heq => h (congrArg Prod.fst heq)]
  | none => rw [cache_apply_of_none htemplate]

theorem alikeAt_apply_of_ne (h : step.tenant ≠ tenant) : (state.apply step).AlikeAt tenant state :=
  ⟨table_apply_of_ne h, routeAt_apply_of_ne h⟩

/-- A step does the same for a tenant in two states that are the same for the tenant. -/
theorem AlikeAt.apply (h : a.AlikeAt tenant b) (step : LoadStep) :
    (a.apply step).AlikeAt tenant (b.apply step) := by
  have hserved : step.tenant = tenant → ∀ t, step.template? = some t →
      a.cache.served? tenant t = b.cache.served? tenant t := by
    intro _ t _
    unfold CompileCache.served?
    rw [h.cache]
  refine ⟨table_apply h.table hserved, fun mark => ?_⟩
  by_cases htenant : step.tenant = tenant
  · cases htemplate : step.template? with
    | some t =>
        rw [routeAt_apply htemplate, routeAt_apply htemplate, h.cache, htenant,
          hserved htenant t htemplate]
    | none => rw [cache_apply_of_none htemplate, cache_apply_of_none htemplate, h.cache]
  · rw [routeAt_apply_of_ne htenant, routeAt_apply_of_ne htenant, h.cache]

/-- For a tenant loading does what the steps for the tenant do. -/
theorem AlikeAt.applyAll_filter (h : a.AlikeAt tenant b) (steps : List LoadStep) :
    (a.applyAll steps).AlikeAt tenant (b.applyAll (steps.filter (·.tenant = tenant))) := by
  induction steps generalizing a b with
  | nil => exact h
  | cons step steps ih =>
      by_cases htenant : step.tenant = tenant
      · rw [List.filter_cons_of_pos (by simpa using htenant)]
        exact ih (h.apply step)
      · rw [List.filter_cons_of_neg (by simpa using htenant)]
        exact ih ((alikeAt_apply_of_ne htenant).trans h)

end LoadState

end Waymark
