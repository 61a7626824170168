import Waymark.Proofs.Load.Order
import Waymark.Proofs.Table

/-! # Where the routes of a loaded scope come from

A step gives a scope the route of one template or nothing. What a scope holds under an id is what
the last step gave it under that id, however often the scope is loaded.
-/

namespace Waymark

open CompileCache (Explained)

namespace LoadStep

/-- The template whose route a step is to give to a scope. -/
def source? (scope : Scope) : LoadStep → Option Template
  | .add other t => if other = scope then some t else none
  | .addIndex other => if other = scope then some Families.index else none
  | _ => none

/-- The route that a step gives to a scope under an id. -/
def gives? (scope : Scope) (routeId : String) (step : LoadStep) : Option Route :=
  ((step.source? scope).filter fun t => t.routeId = routeId).bind Template.route?

variable {step : LoadStep} {scope : Scope} {routeId : String} {r : Route}

theorem gives?_eq_some : step.gives? scope routeId = some r ↔
    ∃ t, step.source? scope = some t ∧ t.routeId = routeId ∧ Route.compile t = .ok r := by
  unfold gives?
  rw [Option.bind_eq_some_iff]
  simp only [Option.filter_eq_some_iff, decide_eq_true_eq, Template.route?_eq_some, and_assoc]

/-- Only the index goes to a scope in another way than by being put there. -/
theorem source?_eq_puts? (h : step ≠ .addIndex scope) : step.source? scope = step.puts? scope := by
  cases step with
  | add other t => rfl
  | refuse other cause => rfl
  | addIndex other => exact if_neg fun heq : other = scope => h (heq ▸ rfl)
  | setFamilies tenant families => rfl

end LoadStep

namespace LoadState

variable {used : TenantId → Template → Prop} {state : LoadState} {scope : Scope}

/-- A step gives a scope a route under an id or leaves the id alone. -/
theorem get?_apply {step : LoadStep} (hdistinct : Distinct used scope.tenant)
    (h : Explained used state.cache) (hstep : step.Uses used) (routeId : String) :
    ((state.apply step).routes scope).get? routeId =
      (step.gives? scope routeId).or ((state.routes scope).get? routeId) := by
  by_cases hindex : step = .addIndex scope
  · subst hindex
    obtain ⟨index, hcompile⟩ := Families.compile_index
    have hsource : LoadStep.source? scope (.addIndex scope) = some Families.index := if_pos rfl
    rw [routes_addIndex hcompile hdistinct h hstep, OrderedMap.get?_insert, LoadStep.gives?,
      hsource]
    split
    next heq =>
      simp [Option.filter_some, show Families.index.routeId = routeId from heq,
        Template.route?_eq_some.mpr hcompile]
    next hne =>
      rw [OrderedMap.get?_erase_ne hne]
      simp [Option.filter_some, show Families.index.routeId ≠ routeId from hne]
  · rw [routes_apply hdistinct h hstep hindex, OrderedMap.get?_insertAll, LoadStep.gives?,
      LoadStep.source?_eq_puts? hindex]
    cases step.puts? scope with
    | none => rfl
    | some t =>
        by_cases heq : t.routeId = routeId
        · cases hroute : t.route? <;> simp [Template.compiled, hroute, heq, Option.filter_some]
        · cases hroute : t.route? <;> simp [Template.compiled, hroute, heq, Option.filter_some]

/-- Of the routes that steps give to a scope under an id the last one stays. -/
theorem get?_applyAll {steps : List LoadStep} (hdistinct : Distinct used scope.tenant)
    (h : Explained used state.cache) (hsteps : ∀ step ∈ steps, step.Uses used)
    (routeId : String) : ((state.applyAll steps).routes scope).get? routeId =
      (steps.filterMap (LoadStep.gives? scope routeId)).getLast?.or
        ((state.routes scope).get? routeId) := by
  induction steps generalizing state with
  | nil => rfl
  | cons step steps ih =>
      obtain ⟨hstep, hsteps⟩ := List.forall_mem_cons.mp hsteps
      have hrun : state.applyAll (step :: steps) = (state.apply step).applyAll steps := rfl
      rw [hrun, ih (explained_apply h hstep) hsteps, get?_apply hdistinct h hstep,
        List.filterMap_cons]
      cases step.gives? scope routeId with
      | none => rfl
      | some r =>
          rw [List.getLast?_cons]
          cases (steps.filterMap (LoadStep.gives? scope routeId)).getLast? <;> rfl

variable {steps : List LoadStep} {routeId : String} {r : Route}

/-- What a scope holds after a load that began without routes was given to it. -/
theorem exists_gives_of_get? (hdistinct : Distinct used scope.tenant)
    (hsteps : ∀ step ∈ steps, step.Uses used)
    (hget : (((initial .empty).applyAll steps).routes scope).get? routeId = some r) :
    ∃ step ∈ steps, step.gives? scope routeId = some r := by
  rw [get?_applyAll hdistinct CompileCache.explained_empty hsteps] at hget
  have hlast : (steps.filterMap (LoadStep.gives? scope routeId)).getLast? = some r := by
    simpa [initial, routes, Table.bucket, Table.empty] using hget
  exact List.mem_filterMap.mp (List.mem_of_getLast? hlast)

/-- If every step that gives a scope a route under an id gives it the same, and one does, then the
scope holds this route. -/
theorem get?_of_unique (hdistinct : Distinct used scope.tenant)
    (hsteps : ∀ step ∈ steps, step.Uses used)
    (hgiven : ∃ step ∈ steps, step.gives? scope routeId = some r)
    (hunique : ∀ step ∈ steps, ∀ other, step.gives? scope routeId = some other → other = r) :
    (((initial .empty).applyAll steps).routes scope).get? routeId = some r := by
  have hmem : r ∈ steps.filterMap (LoadStep.gives? scope routeId) := List.mem_filterMap.mpr hgiven
  obtain ⟨last, hlast⟩ := Option.isSome_iff_exists.mp
    (List.getLast?_isSome.mpr (List.ne_nil_of_mem hmem))
  obtain ⟨step, hstep, hgives⟩ := List.mem_filterMap.mp (List.mem_of_getLast? hlast)
  rw [get?_applyAll hdistinct CompileCache.explained_empty hsteps, hlast,
    hunique step hstep last hgives]
  rfl

end LoadState

namespace Answers

variable {answers : Answers} {scope : Scope} {t : Template}

/-- The steps of a load give a scope its templates and the index. -/
theorem mem_of_source? {step : LoadStep} (hstep : step ∈ answers.steps)
    (hsource : step.source? scope = some t) :
    t ∈ answers.templates scope ∨ t = Families.index := by
  obtain ⟨tenant, -, hstep⟩ := List.mem_flatMap.mp hstep
  rcases List.mem_append.mp hstep with hstep | hstep
  · obtain ⟨locale, -, hstep⟩ := List.mem_flatMap.mp hstep
    rcases List.mem_append.mp hstep with hstep | hstep
    · have hscope := scope?_of_mem_scopeSteps (List.mem_append_left [.addIndex _] hstep)
      have hindex : step ≠ .addIndex scope := by
        rintro rfl
        cases hscope
        exact addIndex_not_mem_routeSteps hstep
      rw [LoadStep.source?_eq_puts? hindex] at hsource
      have hhere : ⟨tenant, locale⟩ = scope := by
        by_contra hne
        rw [LoadStep.puts?_of_elsewhere (by simpa [hscope] using hne)] at hsource
        cases hsource
      rw [hhere] at hstep
      rw [← puts?_routeSteps]
      exact .inl (List.mem_filterMap.mpr ⟨step, hstep, hsource⟩)
    · obtain rfl := List.mem_singleton.mp hstep
      obtain ⟨-, hindex⟩ : _ ∧ some Families.index = some t :=
        Option.ite_none_right_eq_some.mp hsource
      exact .inr (Option.some.inj hindex).symm
  · obtain rfl := List.mem_singleton.mp hstep
    cases hsource

/-- After a load every route of a scope is made from a template of the scope or is the index. -/
theorem template_of_mem_routes {handle : Handle}
    (hmarks : ∀ t ∈ answers.built scope.tenant, ∀ t' ∈ answers.built scope.tenant,
      t.fingerprint = t'.fingerprint → t = t')
    (hmem : handle ∈ ((LoadState.initial .empty).applyAll answers.steps).table.routes scope) :
    handle.route.template ∈ answers.templates scope ∨ handle.route.template = Families.index := by
  obtain ⟨routeId, hget⟩ := Table.mem_routes_iff.mp hmem
  have hroute : (((LoadState.initial .empty).applyAll answers.steps).routes scope).get? routeId =
      some handle.route := by
    unfold Table.get? at hget
    rw [LoadState.routes, OrderedMap.get?_mapValues, hget]
    rfl
  obtain ⟨step, hstep, hgives⟩ := LoadState.exists_gives_of_get?
    (fun t t' ht ht' hmark => hmarks t' ht' t ht hmark) (fun step => uses_of_mem_steps) hroute
  obtain ⟨t, hsource, -, hcompile⟩ := LoadStep.gives?_eq_some.mp hgives
  rw [(Route.compile_eq_ok hcompile).1]
  exact mem_of_source? hstep hsource

end Answers

end Waymark
