import Waymark.Proofs.Load.PageOrder

/-! # The steps of a load that succeeds

When a provider answers every call, what is loaded is a list of steps that depends on the answers
alone. For every scope it is the families, the pages, the families under their custom rules and
the index, in this order.
-/

namespace Waymark

namespace Traced

universe u v w

variable {σ : Type u} {ε : Type v} {α β : Type w}

@[simp]
theorem ofExcept_bind (a : α) (f : α → Traced σ ε β) : (ofExcept (.ok a) >>= f) = f a := rfl

/-- Computations that all succeed leave their traces one behind the other. -/
theorem forEach_eq {γ : Type w} {members : List γ} {f : γ → Traced σ ε PUnit}
    {steps : γ → List σ} (h : ∀ a ∈ members, f a = ⟨steps a, .ok ⟨⟩⟩) :
    forEach members f = ⟨members.flatMap steps, .ok ⟨⟩⟩ := by
  induction members with
  | nil => rfl
  | cons a rest ih =>
      unfold forEach
      rw [h a List.mem_cons_self, ih fun b hb => h b (List.mem_cons_of_mem a hb)]
      rfl

theorem bind_of_eq_ok {x : Traced σ ε α} {steps : List σ} {a : α} (h : x = ⟨steps, .ok a⟩)
    (f : α → Traced σ ε β) : (x >>= f) = ⟨steps ++ (f a).trace, (f a).outcome⟩ := by
  rw [h]
  rfl

end Traced

/-- Answers to the calls that loading makes. -/
structure Answers where
  tenants : List TenantId
  locales : TenantId → List LocaleId
  defaultRoutes : TenantId → List Template
  extensionRoutes : TenantId → List Template
  overrideRule : String → Scope → Option String
  pageRoutes : TenantId → List PageRoute

/-- The calls that loading makes all succeed, with these answers. -/
structure Provider.Gives (provider : Provider) (answers : Answers) : Prop where
  tenants : provider.tenants = .ok answers.tenants
  locales : ∀ tenant ∈ answers.tenants, provider.locales tenant = .ok (answers.locales tenant)
  defaultRoutes : ∀ tenant ∈ answers.tenants,
    provider.defaultRoutes tenant = .ok (answers.defaultRoutes tenant)
  extensionRoutes : ∀ tenant ∈ answers.tenants,
    provider.extensionRoutes tenant = .ok (answers.extensionRoutes tenant)
  pageRoutes : ∀ tenant ∈ answers.tenants,
    provider.pageRoutes tenant = .ok (answers.pageRoutes tenant)
  overrideRule : ∀ tenant ∈ answers.tenants, ∀ locale ∈ answers.locales tenant, ∀ routeId,
    provider.overrideRule routeId ⟨tenant, locale⟩ =
      .ok (answers.overrideRule routeId ⟨tenant, locale⟩)

namespace Answers

variable (answers : Answers)

/-- The families of a tenant: the built-in ones with those of extensions merged over them. -/
def families (tenant : TenantId) : FamilyMap :=
  (OrderedMap.ofList (Provider.familyMap (answers.defaultRoutes tenant))).insertAll
    (Provider.familyMap (answers.extensionRoutes tenant))

/-- The pages of a scope that have a URL, longest URL first. -/
def pages (scope : Scope) : List PageRoute :=
  Plan.sortPages ((answers.pageRoutes scope.tenant).filter (Plan.isServed scope.locale))

/-- The steps for the custom rule of a family. -/
def customSteps (scope : Scope) (entry : String × Template) : List LoadStep :=
  match answers.overrideRule entry.1 scope with
  | none => []
  | some rule => [Plan.overrideStep scope entry.2 rule]

/-- The steps for a scope up to the index. -/
def routeSteps (scope : Scope) : List LoadStep :=
  (answers.families scope.tenant).values.map (.add scope) ++
    (answers.pages scope).map (fun p => .add scope p.toTemplate) ++
    (answers.families scope.tenant).entries.flatMap (answers.customSteps scope)

/-- The steps for a scope. -/
def scopeSteps (scope : Scope) : List LoadStep := answers.routeSteps scope ++ [.addIndex scope]

/-- The steps for a tenant. -/
def tenantSteps (tenant : TenantId) : List LoadStep :=
  (answers.locales tenant).flatMap (fun locale => answers.scopeSteps ⟨tenant, locale⟩) ++
    [.setFamilies tenant (answers.families tenant)]

/-- The steps for a whole table. -/
def steps : List LoadStep := answers.tenants.flatMap answers.tenantSteps

end Answers

namespace Plan

variable {provider : Provider} {answers : Answers}

theorem definitions_eq (h : provider.Gives answers) {tenant : TenantId}
    (htenant : tenant ∈ answers.tenants) :
    provider.definitions tenant = .ok (answers.families tenant) := by
  unfold Provider.definitions
  rw [h.defaultRoutes tenant htenant, h.extensionRoutes tenant htenant]
  rfl

theorem override_eq (h : provider.Gives answers) {tenant : TenantId} {locale : LocaleId}
    (htenant : tenant ∈ answers.tenants) (hlocale : locale ∈ answers.locales tenant)
    (entry : String × Template) :
    override provider ⟨tenant, locale⟩ entry =
      ⟨answers.customSteps ⟨tenant, locale⟩ entry, .ok ⟨⟩⟩ := by
  unfold override Answers.customSteps
  rw [h.overrideRule tenant htenant locale hlocale]
  cases answers.overrideRule entry.1 ⟨tenant, locale⟩ with
  | none => rfl
  | some rule => rfl

theorem scope_eq (h : provider.Gives answers) {tenant : TenantId} {locale : LocaleId}
    (htenant : tenant ∈ answers.tenants) (hlocale : locale ∈ answers.locales tenant) :
    scope provider true (answers.families tenant) (sortPages (answers.pageRoutes tenant))
      ⟨tenant, locale⟩ = ⟨answers.scopeSteps ⟨tenant, locale⟩, .ok ⟨⟩⟩ := by
  have hfamilies : Traced.forEach (answers.families tenant).values
      (fun t => (Traced.note (.add ⟨tenant, locale⟩ t) : Plan PUnit)) =
      ⟨(answers.families tenant).values.flatMap fun t => [.add ⟨tenant, locale⟩ t], .ok ⟨⟩⟩ :=
    Traced.forEach_eq fun _ _ => rfl
  have hpages : Traced.forEach
      ((sortPages (answers.pageRoutes tenant)).filter (isServed locale))
      (fun p => (Traced.note (.add ⟨tenant, locale⟩ p.toTemplate) : Plan PUnit)) =
      ⟨(answers.pages ⟨tenant, locale⟩).flatMap
        fun p => [.add ⟨tenant, locale⟩ p.toTemplate], .ok ⟨⟩⟩ := by
    rw [filter_sortPages]
    exact Traced.forEach_eq fun _ _ => rfl
  have hcustoms := @Traced.forEach_eq _ _ _ (answers.families tenant).entries _ _
    fun entry _ => override_eq h htenant hlocale entry
  unfold scope
  rw [Traced.bind_of_eq_ok hfamilies, if_pos rfl, Traced.bind_of_eq_ok hpages,
    Traced.bind_of_eq_ok hcustoms]
  simp [Answers.scopeSteps, Answers.routeSteps, Traced.note, List.map_eq_flatMap]

theorem tenant_eq (h : provider.Gives answers) {id : TenantId} (htenant : id ∈ answers.tenants) :
    tenant provider true id = ⟨answers.tenantSteps id, .ok ⟨⟩⟩ := by
  have hlocales := @Traced.forEach_eq _ _ _ (answers.locales id) _ _
    fun locale hlocale => scope_eq h htenant hlocale
  unfold tenant
  rw [definitions_eq h htenant, if_pos rfl, h.pageRoutes id htenant, h.locales id htenant]
  simp only [Traced.ofExcept_bind]
  rw [Traced.bind_of_eq_ok hlocales]
  rfl

/-- A load whose calls all succeed carries out the steps that the answers make. -/
theorem table_eq (h : provider.Gives answers) :
    table provider true = ⟨answers.steps, .ok ⟨⟩⟩ := by
  unfold table
  rw [h.tenants, Traced.ofExcept_bind]
  exact Traced.forEach_eq fun id htenant => tenant_eq h htenant

section Mounted

variable {uri : TenantId → String} {tenants : List TenantId}

theorem baseUris_eq (h : ∀ tenant, provider.baseUri tenant = .ok (uri tenant))
    (acc : OrderedMap TenantId String) : baseUris provider tenants acc =
      .ok (acc.insertAll (tenants.map fun tenant => (tenant, uri tenant))) := by
  induction tenants generalizing acc with
  | nil => rfl
  | cons tenant tenants ih =>
      unfold baseUris
      rw [h tenant]
      exact ih _

/-- A table that is planned to its end is mounted where the provider says. -/
theorem mounted_eq {templated : Bool} {steps : List LoadStep}
    (htable : table provider templated = ⟨steps, .ok ⟨⟩⟩)
    (htenants : provider.tenants = .ok tenants)
    (huri : ∀ tenant, provider.baseUri tenant = .ok (uri tenant)) :
    mounted provider templated =
      ⟨steps, .ok (.ofList (tenants.map fun tenant => (tenant, uri tenant)))⟩ := by
  unfold mounted
  rw [Traced.bind_of_eq_ok htable, htenants, Traced.ofExcept_bind, baseUris_eq huri]
  simp [Traced.ofExcept, OrderedMap.ofList]

end Mounted

end Plan

end Waymark
