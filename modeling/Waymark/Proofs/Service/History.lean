import Waymark.Proofs.Load.Alike
import Waymark.Proofs.Load.Order
import Waymark.Proofs.Resolve
import Waymark.Proofs.Service.Run
import Waymark.Proofs.Text.Form

/-! # Reloads that forget what was before

The cache that a reload starts with has routes of earlier tables, of loads that failed and of
snapshots that were never published, less what publishing dropped. All of them were compiled from
templates that providers supplied. So a reload loads for a tenant what it would load with an empty
cache, provided that the templates supplied for the tenant have fingerprints of their own.
-/

namespace Waymark

open CompileCache (Explained)

/-! ## The fingerprint of the index -/

namespace Families

/-- Marks make an empty text only if there are none. -/
theorem eq_empty_of_join {ν : Type} {m : OrderedMap String ν} {mark : String → ν → String}
    (hmark : ∀ name value, '=' ∈ (mark name value).toList)
    (h : (String.join (m.entries.map fun entry => mark entry.1 entry.2)).toList = []) :
    m = .empty := by
  rw [String.toList_join, List.flatMap_map, List.flatMap_eq_nil_iff] at h
  refine OrderedMap.ext (List.eq_nil_iff_forall_not_mem.mpr fun entry hentry => ?_)
  have hmem := hmark entry.1 entry.2
  rw [h entry hentry] at hmem
  cases hmem

/-- No other template has the fingerprint of the index. -/
theorem eq_index_of_fingerprint {t : Template} (h : t.fingerprint = index.fingerprint) :
    t = index := by
  let keywords := (String.join (t.keywords.entries.map fun entry =>
    Template.keywordMark entry.1 entry.2)).toList
  let params := (String.join (t.params.entries.map fun entry =>
    Template.paramMark entry.1 entry.2)).toList
  have htext : t.routeId.toList ++ '|' :: (t.rule.toList ++ '|' ::
      ((t.target.getD "-").toList ++ '|' :: (keywords ++ '|' :: params))) =
      "index||index||".toList := by
    have hlist := congrArg String.toList h
    have hindex : index.fingerprint = "index||index||" := by decide
    rw [hindex] at hlist
    rw [← hlist]
    simp [Template.fingerprint, keywords, params]
  -- the bars between the parts are all that there are
  have hcount := congrArg (List.count '|') htext
  have hbars : "index||index||".toList.count '|' = 4 := by decide
  rw [hbars] at hcount
  simp only [List.count_append, List.count_cons_self] at hcount
  have hsplit := congrArg (Text.splitAll '|') htext
  have hparts : Text.splitAll '|' "index||index||".toList =
      ["index".toList, [], "index".toList, [], []] := by decide
  rw [hparts, Text.splitAll_append (List.count_eq_zero.mp (by omega)),
    Text.splitAll_append (List.count_eq_zero.mp (by omega)),
    Text.splitAll_append (List.count_eq_zero.mp (by omega)),
    Text.splitAll_append (List.count_eq_zero.mp (by omega)),
    Text.splitAll_of_not_mem (List.count_eq_zero.mp (by omega))] at hsplit
  simp only [List.cons.injEq, and_true] at hsplit
  obtain ⟨hid, hrule, htarget, hkeywords, hparams⟩ := hsplit
  have hid' : t.routeId = "index" := String.toList_inj.mp hid
  have hrule' : t.rule = "" := String.toList_inj.mp hrule
  have htarget' : t.target = some "index" := by
    cases hname : t.target with
    | none =>
        rw [hname] at htarget
        exact absurd htarget (by decide)
    | some name =>
        rw [hname] at htarget
        exact congrArg some (String.toList_inj.mp htarget)
  have hkeywords' : t.keywords = .empty :=
    eq_empty_of_join (fun name k => by simp [Template.keywordMark]) hkeywords
  have hparams' : t.params = .empty :=
    eq_empty_of_join (fun name value => by simp [Template.paramMark]) hparams
  cases t
  cases hid'
  cases hrule'
  cases htarget'
  cases hkeywords'
  cases hparams'
  rfl

end Families

/-- Templates that have fingerprints of their own still do beside the index. -/
theorem LoadState.Distinct.withIndex {used : TenantId → Template → Prop} {tenant : TenantId}
    (h : Distinct used tenant) :
    Distinct (fun tenant t => t = Families.index ∨ used tenant t) tenant := by
  rintro t t' (rfl | ht) (rfl | ht') hmark
  · rfl
  · exact Families.eq_index_of_fingerprint hmark
  · exact (Families.eq_index_of_fingerprint hmark.symm).symm
  · exact h t t' ht ht' hmark

/-! ## What providers supply -/

namespace Provider

variable {used : TenantId → Template → Prop} {provider : Provider} {templated : Bool}

/-- A template that a provider supplies for a tenant: loading puts it into a scope. -/
def Supplies (provider : Provider) (templated : Bool) (tenant : TenantId) (t : Template) : Prop :=
  ∃ locale, .add ⟨tenant, locale⟩ t ∈ (Plan.table provider templated).trace

/-- The table that a provider makes when nothing is in the cache. -/
def freshTable (provider : Provider) (templated : Bool) : Except CollaboratorError Table :=
  let plan := Plan.table provider templated
  plan.outcome.map fun _ => ((LoadState.initial .empty).applyAll plan.trace).table

/-- Loading asks the cache for the index and for what the provider supplies. -/
theorem uses_of_mem_trace (hindex : ∀ tenant, used tenant Families.index)
    (hsupplied : ∀ tenant t, provider.Supplies templated tenant t → used tenant t) {step : LoadStep}
    (h : step ∈ (Plan.table provider templated).trace) : step.Uses used := by
  cases step with
  | add scope t => exact hsupplied scope.tenant t ⟨scope.locale, h⟩
  | refuse scope cause => trivial
  | addIndex scope => exact hindex scope.tenant
  | setFamilies tenant families => trivial

/-- Asking where tenants are mounted adds no step. -/
theorem trace_mounted (provider : Provider) (templated : Bool) :
    (Plan.mounted provider templated).trace = (Plan.table provider templated).trace := by
  have hrest : (Traced.ofExcept provider.tenants >>= fun tenants =>
      Traced.ofExcept (Plan.baseUris provider tenants .empty) :
        Plan (OrderedMap TenantId String)).trace = [] := by
    cases provider.tenants with
    | error cause => rfl
    | ok tenants => rfl
  unfold Plan.mounted
  change ((Plan.table provider templated).andThen _).trace = _
  unfold Traced.andThen
  cases (Plan.table provider templated).outcome with
  | error cause => rfl
  | ok done => exact (congrArg _ hrest).trans (List.append_nil _)

/-- What a load adds to the cache comes from what its provider supplies. -/
theorem explained_load {cache : CompileCache} (h : Explained used cache)
    (hindex : ∀ tenant, used tenant Families.index) {settings : Settings}
    (hsupplied : ∀ tenant t, provider.Supplies settings.templatedRouting tenant t → used tenant t)
    (entities : EntityResolver) :
    Explained used (Snapshot.load provider settings entities cache).cache := by
  unfold Snapshot.load
  dsimp only
  rw [trace_mounted]
  exact LoadState.explained_applyAll h fun step => uses_of_mem_trace hindex hsupplied

/-- A load that succeeds gives a tenant whose templates have fingerprints of their own what a load
with an empty cache gives it. -/
theorem alikeAt_of_load {cache : CompileCache} {settings : Settings} {entities : EntityResolver}
    {snapshot : Snapshot}
    (hload : (Snapshot.load provider settings entities cache).outcome = .ok snapshot)
    (h : Explained used cache) (hindex : ∀ tenant, used tenant Families.index)
    (hsupplied : ∀ tenant t, provider.Supplies settings.templatedRouting tenant t →
      used tenant t) :
    ∃ fresh, provider.freshTable settings.templatedRouting = .ok fresh ∧
      ∀ tenant, LoadState.Distinct used tenant → snapshot.table.AlikeAt tenant fresh := by
  obtain ⟨uris, hmounted, rfl⟩ := map_eq_ok.mp hload
  obtain ⟨done, hplanned, -⟩ := Traced.outcome_bind_eq_ok.mp hmounted
  refine ⟨_, map_eq_ok.mpr ⟨done, hplanned, rfl⟩, fun tenant hdistinct => ?_⟩
  rw [← provider.trace_mounted]
  refine LoadState.table_applyAll (.refl tenant _) hdistinct h CompileCache.explained_empty ?_
  rw [provider.trace_mounted]
  exact fun step => uses_of_mem_trace hindex hsupplied

end Provider

namespace Service

variable {used : TenantId → Template → Prop} {s after : Service} {provider : Provider}
  {settings : Settings} {entities : EntityResolver}

/-- A template that an action supplies for a tenant. -/
def Action.Supplies : Action → TenantId → Template → Prop
  | .reload provider settings _ => provider.Supplies settings.templatedRouting
  | .load _ provider settings _ => provider.Supplies settings.templatedRouting
  | _ => fun _ _ => False

theorem explained_start (hindex : ∀ tenant, used tenant Families.index)
    (hsupplied : ∀ tenant t, provider.Supplies settings.templatedRouting tenant t → used tenant t)
    (hstart : start provider settings entities = .ok s) : Explained used s.registry.cache := by
  obtain ⟨snapshot, -, hregistry, -⟩ := start_eq_ok hstart
  rw [hregistry]
  exact provider.explained_load CompileCache.explained_empty hindex hsupplied entities

/-- Whatever is done, the cache has only routes of templates in use. -/
theorem explained_step (hindex : ∀ tenant, used tenant Families.index) {action : Action}
    (hsupplied : ∀ tenant t, action.Supplies tenant t → used tenant t)
    (h : Explained used s.registry.cache) : Explained used (s.step action).registry.cache := by
  cases action with
  | reload provider settings entities =>
      have hload := provider.explained_load h hindex hsupplied entities
      cases hreload : s.reload provider settings entities with
      | mk outcome after =>
          unfold step
          dsimp only
          rw [hreload]
          cases outcome with
          | ok =>
              obtain ⟨snapshot, -, hregistry, -⟩ := reload_eq_ok hreload
              rw [hregistry]
              exact hload.prune _
          | error cause =>
              rw [reload_eq_error hreload]
              exact hload
  | load name provider settings entities =>
      have hload := provider.explained_load h hindex hsupplied entities
      unfold step
      dsimp only
      rw [load_eq]
      cases (s.loaded provider settings entities).outcome with
      | ok snapshot => exact hload
      | error cause => exact hload
  | publish name =>
      unfold step
      dsimp only
      split
      next snapshot hget => exact h.prune _
      next => exact h
  | adopt snapshot => exact h.prune _
  | keep name router => exact h
  | release name => exact h
  | resolve router context => exact h
  | build router scope routeId params templated anchor => exact h

/-- A template that was supplied for a tenant by the first provider or by an action. -/
def Supplied (first : Provider) (settings : Settings) (actions : List Action) (tenant : TenantId)
    (t : Template) : Prop :=
  first.Supplies settings.templatedRouting tenant t ∨ ∃ action ∈ actions, action.Supplies tenant t

/-- Whatever happened before, a reload publishes for every tenant whose templates have fingerprints
of their own what it would publish with an empty cache: the same families, and in each scope the
same routes under the same ids in the same order. -/
theorem reload_forgets {first : Provider} {firstSettings : Settings}
    {firstEntities : EntityResolver} {actions : List Action}
    (hstart : start first firstSettings firstEntities = .ok s)
    (hreload : (s.run actions).reload provider settings entities = (.ok (), after)) :
    ∃ fresh, provider.freshTable settings.templatedRouting = .ok fresh ∧
      ∀ tenant, LoadState.Distinct (Supplied first firstSettings
          (actions ++ [.reload provider settings entities])) tenant →
        after.current.table.AlikeAt tenant fresh ∧
        ∀ locale, (after.current.table.routes ⟨tenant, locale⟩).map Handle.route =
          (fresh.routes ⟨tenant, locale⟩).map Handle.route := by
  let supplied := Supplied first firstSettings (actions ++ [.reload provider settings entities])
  let used : TenantId → Template → Prop := fun tenant t => t = Families.index ∨ supplied tenant t
  have hindex : ∀ tenant, used tenant Families.index := fun _ => .inl rfl
  have hactions : ∀ action ∈ actions ++ [.reload provider settings entities],
      ∀ tenant t, action.Supplies tenant t → used tenant t :=
    fun action hmem _ _ ht => .inr (.inr ⟨action, hmem, ht⟩)
  -- the induction is over the run: no action brings in a route of a template that is not supplied
  have hbefore : Explained used (s.run actions).registry.cache := by
    apply run_induction (P := fun s => Explained used s.registry.cache)
    · exact explained_start hindex (fun _ _ ht => .inr (.inl ht)) hstart
    · intro s action hmem h
      exact explained_step hindex (hactions action (List.mem_append_left _ hmem)) h
  obtain ⟨snapshot, hloaded, hregistry, -⟩ := reload_eq_ok hreload
  obtain ⟨fresh, hfresh, halike⟩ := Provider.alikeAt_of_load hloaded hbefore hindex
    (hactions _ (List.mem_append_right _ List.mem_cons_self))
  refine ⟨fresh, hfresh, fun tenant hdistinct => ?_⟩
  have hcurrent : after.current = snapshot := congrArg Registry.current hregistry
  rw [hcurrent]
  exact ⟨halike tenant hdistinct.withIndex, (halike tenant hdistinct.withIndex).map_routes⟩

end Service

/-! ## A shop that moves a page -/

namespace Answers

/-- The templates of the shop. -/
def shopTemplates (url : String) : List Template :=
  [.plain "shop" "shop" none, .plain "contact" "contact" none, .plain "news" "news" none,
    .plain "contact" url (some "contact"), .plain "shop" "store" none, Families.index]

theorem mem_of_supplies {url : String} (h : url ≠ "") {t : Template}
    (ht : (shopWith url).provider.Supplies true 1 t) : t ∈ shopTemplates url := by
  obtain ⟨locale, hmem⟩ := ht
  rw [Plan.table_eq (gives_provider _)] at hmem
  have hbuilt := uses_of_mem_steps hmem
  rw [LoadStep.Uses, built_shopWith h] at hbuilt
  exact hbuilt

theorem mounted_provider (answers : Answers) : ∃ uris,
    Plan.mounted answers.provider true = ⟨answers.steps, .ok uris⟩ :=
  ⟨_, Plan.mounted_eq (Plan.table_eq (gives_provider answers)) rfl fun _ => rfl⟩

end Answers

namespace Service

/-- The page is moved while somebody keeps a router, and then the provider is down. -/
def pageRun (entities : EntityResolver) : List Action :=
  [.keep "shopper" none, .reload (Answers.shopWith "reach-us").provider .initial entities,
    .reload (Answers.shopWith "reach-us").provider.down .initial entities]

/-- The shop with its page where it was. -/
def pageBack (entities : EntityResolver) : Action :=
  .reload (Answers.shopWith "contact-us").provider .initial entities

theorem mem_of_supplied {entities : EntityResolver} {t : Template}
    (h : Supplied (Answers.shopWith "contact-us").provider .initial
      (pageRun entities ++ [pageBack entities]) 1 t) :
    t ∈ Answers.shopTemplates "contact-us" ++ Answers.shopTemplates "reach-us" := by
  have hfirst : ∀ {t}, (Answers.shopWith "contact-us").provider.Supplies true 1 t →
      t ∈ Answers.shopTemplates "contact-us" := Answers.mem_of_supplies (by decide)
  have hmoved : ∀ {t}, (Answers.shopWith "reach-us").provider.Supplies true 1 t →
      t ∈ Answers.shopTemplates "reach-us" := Answers.mem_of_supplies (by decide)
  rcases h with h | ⟨action, hmem, h⟩
  · exact List.mem_append_left _ (hfirst h)
  · simp only [pageRun, List.cons_append, List.nil_append, List.mem_cons, List.not_mem_nil,
      or_false] at hmem
    rcases hmem with rfl | rfl | rfl | rfl
    · exact h.elim
    · exact List.mem_append_right _ (hmoved h)
    · exact List.mem_append_right _ (hmoved h)
    · exact List.mem_append_left _ (hfirst h)

theorem reload_forgets_movedPage : ∃ entities s after fresh,
    start (Answers.shopWith "contact-us").provider .initial entities = .ok s ∧
    (s.run (pageRun entities)).reload (Answers.shopWith "contact-us").provider .initial entities =
      (.ok (), after) ∧
    (Answers.shopWith "contact-us").provider.freshTable true = .ok fresh ∧
    LoadState.Distinct (Supplied (Answers.shopWith "contact-us").provider .initial
      (pageRun entities ++ [pageBack entities])) 1 ∧
    after.current.table.AlikeAt 1 fresh ∧
    ∀ locale, (after.current.table.routes ⟨1, locale⟩).map Handle.route =
      (fresh.routes ⟨1, locale⟩).map Handle.route := by
  let entities := EntityResolver.ofRecords []
  obtain ⟨uris, hmounted⟩ := (Answers.shopWith "contact-us").mounted_provider
  have houtcome : (Plan.mounted (Answers.shopWith "contact-us").provider
      Settings.initial.templatedRouting).outcome = .ok uris := congrArg Traced.outcome hmounted
  obtain ⟨s, hstart⟩ := start_of_mounted houtcome entities
  obtain ⟨after, hreload⟩ := reload_of_mounted (s.run (pageRun entities)) houtcome entities
  obtain ⟨fresh, hfresh, halike⟩ := reload_forgets hstart hreload
  have hdistinct : LoadState.Distinct (Supplied (Answers.shopWith "contact-us").provider .initial
      (pageRun entities ++ [pageBack entities])) 1 := by
    have hmarks : ∀ t ∈ Answers.shopTemplates "contact-us" ++ Answers.shopTemplates "reach-us",
        ∀ t' ∈ Answers.shopTemplates "contact-us" ++ Answers.shopTemplates "reach-us",
          t'.fingerprint = t.fingerprint → t' = t := by
      decide
    exact fun t t' ht ht' => hmarks t (mem_of_supplied ht) t' (mem_of_supplied ht')
  exact ⟨entities, s, after, fresh, hstart, hreload, hfresh, hdistinct, halike 1 hdistinct⟩

end Service

end Waymark
