import Mathlib.Tactic.Tauto
import Waymark.Config.Validate

/-! # What the check of a configuration finds

A configuration has no problems exactly if nothing is wrong with it: each part of the list of
problems is empty exactly if the entries that it is about are in order.
-/

namespace Waymark.Config

variable {config : Config}

/-! ## Entry by entry -/

theorem compileProblem_eq_nil {problem : CompileError → ConfigProblem} {t : Template} :
    compileProblem problem t = [] ↔ Compiles t := by
  unfold compileProblem Compiles
  cases Route.compile t <;> simp

theorem isBlank_eq_false {text : String} :
    isBlank text = false ↔ ∃ c ∈ text.toList, Unicode.isWhiteSpace c = false := by
  simp [isBlank]

/-- Tenants are in order if they are different from each other and from those before, and each
has a locale. -/
theorem tenantProblems_eq_nil {seen : List TenantId} {tenants : List TenantConfig} :
    tenantProblems seen tenants = [] ↔
      (tenants.map (·.id)).Nodup ∧ (∀ t ∈ tenants, t.id ∉ seen) ∧
        ∀ t ∈ tenants, t.locales ≠ [] := by
  induction tenants generalizing seen with
  | nil => simp [tenantProblems]
  | cons t tenants ih =>
      have hduplicate : (if seen.contains t.id then [ConfigProblem.duplicateTenant t.id] else []) =
          [] ↔ t.id ∉ seen := by simp
      have hlocales : (if t.locales.isEmpty then [ConfigProblem.noLocales t.id] else []) = [] ↔
          t.locales ≠ [] := by simp
      have hlater : (∀ other ∈ tenants, other.id ∉ t.id :: seen) ↔
          t.id ∉ tenants.map (·.id) ∧ ∀ other ∈ tenants, other.id ∉ seen := by
        simp only [List.mem_cons, not_or, forall_and, List.mem_map, not_exists, not_and]
      rw [tenantProblems, List.append_eq_nil_iff, List.append_eq_nil_iff, hduplicate, hlocales, ih,
        hlater, List.map_cons, List.nodup_cons, List.forall_mem_cons, List.forall_mem_cons]
      tauto

theorem routeProblems_eq_nil {t : Template} : routeProblems t = [] ↔
    (∃ c ∈ t.routeId.toList, Unicode.isWhiteSpace c = false) ∧ Compiles t := by
  unfold routeProblems
  rw [← isBlank_eq_false]
  cases hblank : isBlank t.routeId with
  | true => simp
  | false => simp [compileProblem_eq_nil]

theorem overrideProblems_eq_nil {families : FamilyMap} {templated : Bool} {o : OverrideConfig} :
    overrideProblems families templated o = [] ↔
      ∃ family, families.get? o.routeId = some family ∧
        family.validateRule o.rule templated = .ok () ∧ Compiles (family.withRule o.rule) := by
  unfold overrideProblems
  split
  next hnone => simp [hnone]
  next family hfamily =>
    split
    next cause hcause => simp [hfamily, hcause]
    next hvalid => simp [hfamily, hvalid, compileProblem_eq_nil]

theorem referenceProblems_eq_nil : config.referenceProblems = [] ↔
    ∀ r ∈ config.tenantReferences, r.2 ∈ config.tenants.map (·.id) := by
  simp [referenceProblems]

/-! ## The whole configuration -/

/-- A configuration has no problems exactly if nothing is wrong with it. -/
theorem problems_eq_nil : config.problems = [] ↔ config.Valid := by
  have htenants : (if config.tenants.isEmpty then [ConfigProblem.noTenants] else []) = [] ↔
      config.tenants ≠ [] := by simp
  unfold problems
  simp only [List.append_eq_nil_iff, htenants, tenantProblems_eq_nil, List.flatMap_eq_nil_iff,
    routeProblems_eq_nil, overrideProblems_eq_nil, pageProblems, compileProblem_eq_nil,
    referenceProblems_eq_nil]
  constructor
  · rintro ⟨⟨⟨⟨⟨hne, hnodup, -, hlocales⟩, hroutes⟩, hoverrides⟩, hpages⟩, hreferences⟩
    exact ⟨hne, hnodup, hlocales, fun t ht => (hroutes t ht).1, fun t ht => (hroutes t ht).2,
      hoverrides, hpages, hreferences⟩
  · intro h
    exact ⟨⟨⟨⟨⟨h.tenants_ne_nil, h.tenants_nodup, by simp, h.locales_ne_nil⟩,
      fun t ht => ⟨h.routes_named t ht, h.routes_compile t ht⟩⟩, h.overrides_fit⟩,
      h.pages_compile⟩, h.references_exist⟩

theorem validate_eq_ok : config.validate = .ok () ↔ config.Valid := by
  rw [← problems_eq_nil]
  unfold validate
  split
  next hnone => simp [hnone]
  next hsome => simpa using hsome

end Waymark.Config
