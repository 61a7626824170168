import Waymark.Service
import Waymark.Proofs.OrderedMap

/-! # Runs of a service

What happens to a registry is told as a list of actions. A snapshot that was built but not published
is kept under a name, as a router is: as long as somebody holds a snapshot, the routes that it uses
are in use.
-/

namespace Waymark

/-- A provider while nobody can say where tenants are mounted. -/
def Provider.down (provider : Provider) : Provider :=
  { provider with baseUri := fun _ => .error ⟨collaboratorName, "down"⟩ }

namespace Service

/-- What clients do with a registry. A router is named; without a name it is one that was just
taken. -/
inductive Action where
  /-- Reloads from a provider. -/
  | reload (provider : Provider) (settings : Settings) (entities : EntityResolver)
  /-- Builds a snapshot with the cache of the registry and keeps it under a name. -/
  | load (name : String) (provider : Provider) (settings : Settings) (entities : EntityResolver)
  /-- Publishes the snapshot that is kept under a name, which then no longer keeps it. -/
  | publish (name : String)
  /-- Publishes a snapshot that was built without the registry. -/
  | adopt (snapshot : Snapshot)
  /-- Keeps a router under a name. -/
  | keep (name : String) (router : Option String)
  /-- Releases what is kept under a name. -/
  | release (name : String)
  /-- Resolves a request through a router. -/
  | resolve (router : Option String) (context : RequestContext)
  /-- Builds a URL through a router. -/
  | build (router : Option String) (scope : Scope) (routeId : String) (params : Params)
      (templated : Bool) (anchor : String)

/-- Whether an action publishes nothing but what the registry built. -/
def Action.isOwn : Action → Bool
  | .adopt _ => false
  | _ => true

/-- The snapshot that a router views. -/
def router (s : Service) (name : Option String) : Snapshot :=
  (name.bind s.kept.get?).getD s.current

/-- What an action makes of a service. A snapshot that cannot be built is not kept. -/
def step (s : Service) : Action → Service
  | .reload provider settings entities => (s.reload provider settings entities).2
  | .load name provider settings entities =>
      match s.load provider settings entities with
      | (.ok snapshot, after) => after.keep name snapshot
      | (.error _, after) => after
  | .publish name =>
      match s.kept.get? name with
      | some snapshot => (s.release name).publish snapshot
      | none => s
  | .adopt snapshot => s.publish snapshot
  | .keep name router => s.keep name (s.router router)
  | .release name => s.release name
  | .resolve router context => (s.resolve (s.router router) context).2
  | .build router scope routeId params templated anchor =>
      (s.build (s.router router) scope routeId params templated anchor).2

/-- The service after some actions. -/
def run (s : Service) (actions : List Action) : Service := actions.foldl step s

/-- The snapshots that somebody holds: the current one and those that are kept. -/
def live (s : Service) : List Snapshot := s.current :: s.kept.values

variable {s : Service} {name : String} {snapshot router : Snapshot}

/-- What every action keeps, a run keeps. -/
theorem run_induction {P : Service → Prop} {actions : List Action} (hstart : P s)
    (hstep : ∀ s, ∀ action ∈ actions, P s → P (s.step action)) : P (s.run actions) := by
  induction actions generalizing s with
  | nil => exact hstart
  | cons action actions ih =>
      exact ih (hstep s action List.mem_cons_self hstart) fun s action hmem =>
        hstep s action (List.mem_cons_of_mem _ hmem)

/-! ### Who is held -/

theorem mem_live_of_kept (h : s.kept.get? name = some snapshot) : snapshot ∈ s.live :=
  List.mem_cons_of_mem _ (List.mem_map_of_mem (OrderedMap.mem_of_get? h))

theorem router_mem_live (s : Service) (name : Option String) : s.router name ∈ s.live := by
  unfold Service.router
  cases hkept : name.bind s.kept.get? with
  | none => exact List.mem_cons_self
  | some snapshot =>
      obtain ⟨name, -, hget⟩ := Option.bind_eq_some_iff.mp hkept
      exact mem_live_of_kept hget

/-- Whoever is held after a router is kept was held before, or is that router. -/
theorem mem_live_keep (h : snapshot ∈ (s.keep name router).live) :
    snapshot = router ∨ snapshot ∈ s.live := by
  rcases List.mem_cons.mp h with rfl | h
  · exact .inr List.mem_cons_self
  · obtain ⟨entry, hentry, rfl⟩ := List.mem_map.mp h
    rcases OrderedMap.mem_of_mem_insert hentry with rfl | hentry
    · exact .inl rfl
    · exact .inr (List.mem_cons_of_mem _ (List.mem_map_of_mem hentry))

theorem mem_live_release (h : snapshot ∈ (s.release name).live) : snapshot ∈ s.live := by
  rcases List.mem_cons.mp h with rfl | h
  · exact List.mem_cons_self
  · obtain ⟨entry, hentry, rfl⟩ := List.mem_map.mp h
    exact List.mem_cons_of_mem _ (List.mem_map_of_mem (List.mem_filter.mp hentry).1)

/-! ### What loading does to a service -/

variable {provider : Provider} {settings : Settings} {entities : EntityResolver} {after : Service}

/-- What a load with the cache of the registry answers. -/
def loaded (s : Service) (provider : Provider) (settings : Settings) (entities : EntityResolver) :
    Loaded :=
  Snapshot.load provider settings entities s.registry.cache

/-- A service with the cache that a load leaves. -/
def withCache (s : Service) (cache : CompileCache) : Service :=
  { s with registry := { s.registry with cache } }

theorem load_eq : s.load provider settings entities =
    ((s.loaded provider settings entities).outcome,
      (s.withCache (s.loaded provider settings entities).cache).count
        (Registry.rejections (s.loaded provider settings entities).rejected)) :=
  rfl

/-- A service starts with the snapshot that is loaded with an empty cache, and keeps nothing. -/
theorem start_eq_ok (h : start provider settings entities = .ok s) :
    ∃ snapshot, (Snapshot.load provider settings entities .empty).outcome = .ok snapshot ∧
      s.registry = ⟨snapshot, (Snapshot.load provider settings entities .empty).cache⟩ ∧
      s.kept = .empty := by
  unfold start Registry.start at h
  dsimp only at h
  cases houtcome : (Snapshot.load provider settings entities .empty).outcome with
  | error cause =>
      rw [houtcome] at h
      cases h
  | ok snapshot =>
      rw [houtcome] at h
      cases h
      exact ⟨snapshot, rfl, rfl, rfl⟩

/-- A reload that succeeds publishes the snapshot that it loads. -/
theorem reload_eq_ok (h : s.reload provider settings entities = (.ok (), after)) :
    ∃ snapshot, (s.loaded provider settings entities).outcome = .ok snapshot ∧
      after.registry = ((s.withCache (s.loaded provider settings entities).cache).publish
        snapshot).registry ∧ after.kept = s.kept := by
  unfold Service.reload Registry.reload at h
  unfold loaded
  dsimp only at h
  cases houtcome : (Snapshot.load provider settings entities s.registry.cache).outcome with
  | error cause =>
      rw [houtcome] at h
      cases h
  | ok snapshot =>
      rw [houtcome] at h
      cases h
      exact ⟨snapshot, rfl, rfl, rfl⟩

/-- A reload that fails leaves all but the cache and what is counted as it was. -/
theorem reload_eq_error {cause : CollaboratorError}
    (h : s.reload provider settings entities = (.error cause, after)) :
    after = (s.withCache (s.loaded provider settings entities).cache).count
      (Registry.rejections (s.loaded provider settings entities).rejected ++ [.reload false]) := by
  unfold Service.reload Registry.reload at h
  unfold loaded
  dsimp only at h
  cases houtcome : (Snapshot.load provider settings entities s.registry.cache).outcome with
  | error cause =>
      rw [houtcome] at h
      cases h
      rfl
  | ok snapshot =>
      rw [houtcome] at h
      cases h

/-! ### Loads that succeed, and one that fails -/

section Mounted

variable {uris : OrderedMap TenantId String}

theorem start_of_mounted
    (h : (Plan.mounted provider settings.templatedRouting).outcome = .ok uris)
    (entities : EntityResolver) : ∃ s, start provider settings entities = .ok s := by
  unfold start Registry.start Snapshot.load
  dsimp only
  rw [h]
  exact ⟨_, rfl⟩

theorem reload_of_mounted (s : Service)
    (h : (Plan.mounted provider settings.templatedRouting).outcome = .ok uris)
    (entities : EntityResolver) :
    ∃ after, s.reload provider settings entities = (.ok (), after) := by
  unfold Service.reload Registry.reload Snapshot.load
  dsimp only
  rw [h]
  exact ⟨_, rfl⟩

/-- A snapshot that is loaded is kept. -/
theorem kept_of_mounted (s : Service) (name : String)
    (h : (Plan.mounted provider settings.templatedRouting).outcome = .ok uris)
    (entities : EntityResolver) : ∃ snapshot,
      (s.step (.load name provider settings entities)).kept.get? name = some snapshot := by
  unfold step
  dsimp only
  rw [load_eq]
  unfold loaded Snapshot.load
  dsimp only
  rw [h]
  exact ⟨_, (OrderedMap.get?_insert _ _ _ _).trans (if_pos rfl)⟩

end Mounted

theorem reload_of_error (s : Service) {cause : CollaboratorError}
    (h : (s.loaded provider settings entities).outcome = .error cause) :
    ∃ after, s.reload provider settings entities = (.error cause, after) := by
  unfold loaded at h
  unfold Service.reload Registry.reload
  dsimp only
  rw [h]
  exact ⟨_, rfl⟩

end Service

end Waymark
