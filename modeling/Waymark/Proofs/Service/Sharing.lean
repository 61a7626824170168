import Waymark.Proofs.Load.Complete
import Waymark.Proofs.Metrics
import Waymark.Proofs.Sharing
import Waymark.Proofs.Service.Run

/-! # What a service shares

Snapshots are loaded, published, kept and released in any order, and loads that fail leave routes
behind that nobody uses. Still every route of a snapshot that somebody holds is the object that the
cache has for its tenant and its fingerprint: publishing drops from the cache just what no such
snapshot uses, and nothing else drops anything.
-/

namespace Waymark.Service

/-- The cache has each object once, and the tables of all snapshots that somebody holds use what it
has. -/
structure Shares (s : Service) : Prop where
  sound : s.registry.cache.Sound
  cached : ∀ snapshot ∈ s.live, snapshot.table.CachedIn s.registry.cache

/-- The cache has the entries that the tables of held snapshots use, and no others. -/
def HoldsInUse (s : Service) : Prop :=
  ∀ key, key ∈ s.registry.cache.entries.keys ↔
    ∃ snapshot ∈ s.live, snapshot.table.UsesEntry key

variable {s after : Service} {provider : Provider} {settings : Settings}
  {entities : EntityResolver} {snapshot : Snapshot}

theorem cache_publish (registry : Registry) (kept : List Snapshot) (snapshot : Snapshot) :
    (registry.publish kept snapshot).cache =
      registry.cache.prune (((snapshot :: kept).map Snapshot.table).flatMap Table.handles) := by
  rw [List.flatMap_map]
  rfl

/-- Publishing keeps what is in use, and only that. -/
theorem Shares.publish (h : s.Shares) (hsnapshot : snapshot.table.CachedIn s.registry.cache) :
    (s.publish snapshot).Shares ∧ (s.publish snapshot).HoldsInUse := by
  have hcached : ∀ table ∈ (snapshot :: s.kept.values).map Snapshot.table,
      table.CachedIn s.registry.cache := by
    intro table htable
    obtain ⟨held, hheld, rfl⟩ := List.mem_map.mp htable
    rcases List.mem_cons.mp hheld with rfl | hheld
    · exact hsnapshot
    · exact h.cached held (List.mem_cons_of_mem _ hheld)
  have hcache : (s.publish snapshot).registry.cache = s.registry.cache.prune
      (((snapshot :: s.kept.values).map Snapshot.table).flatMap Table.handles) :=
    cache_publish s.registry s.kept.values snapshot
  refine ⟨⟨?_, ?_⟩, ?_⟩
  · rw [hcache]
    exact h.sound.prune _
  · intro held hheld
    rw [hcache]
    have htable := List.mem_map_of_mem (f := Snapshot.table) hheld
    exact (hcached held.table htable).prune h.sound htable
  · intro key
    rw [hcache, h.sound.keys_prune hcached]
    simp only [List.mem_map, exists_exists_and_eq_and]
    rfl

/-- Whatever a load adds to the cache, the snapshots that are held still use what it has. -/
theorem Shares.load (h : s.Shares) (provider : Provider) (settings : Settings)
    (entities : EntityResolver) :
    (s.withCache (s.loaded provider settings entities).cache).Shares ∧
      ∀ snapshot, (s.loaded provider settings entities).outcome = .ok snapshot →
        snapshot.table.CachedIn (s.loaded provider settings entities).cache := by
  obtain ⟨hsound, hextends, hloaded⟩ :=
    Snapshot.load_shares h.sound provider settings entities
  exact ⟨⟨hsound, fun held hheld => (h.cached held hheld).extend hextends⟩, hloaded⟩

theorem Shares.keep (h : s.Shares) (name : String)
    (hsnapshot : snapshot.table.CachedIn s.registry.cache) : (s.keep name snapshot).Shares := by
  refine ⟨h.sound, fun held hheld => ?_⟩
  rcases mem_live_keep hheld with rfl | hheld
  · exact hsnapshot
  · exact h.cached held hheld

theorem Shares.release (h : s.Shares) (name : String) : (s.release name).Shares :=
  ⟨h.sound, fun held hheld => h.cached held (mem_live_release hheld)⟩

/-- A service with the same registry and the same kept snapshots shares the same. -/
theorem Shares.congr (h : s.Shares) (hregistry : after.registry = s.registry)
    (hkept : after.kept = s.kept) : after.Shares := by
  refine ⟨hregistry ▸ h.sound, fun held hheld => ?_⟩
  have hlive : after.live = s.live := by
    unfold live current
    rw [hregistry, hkept]
  rw [hregistry]
  exact h.cached held (hlive ▸ hheld)

theorem Shares.count (h : s.Shares) (events : List Event) : (s.count events).Shares :=
  h.congr rfl rfl

theorem Shares.reload_ok (h : s.Shares)
    (hreload : s.reload provider settings entities = (.ok (), after)) :
    after.Shares ∧ after.HoldsInUse := by
  obtain ⟨snapshot, hloaded, hregistry, hkept⟩ := reload_eq_ok hreload
  obtain ⟨hload, hcached⟩ := h.load provider settings entities
  obtain ⟨hshares, hinUse⟩ := hload.publish (hcached snapshot hloaded)
  refine ⟨hshares.congr hregistry hkept, ?_⟩
  unfold HoldsInUse live current
  rw [hregistry, hkept]
  exact hinUse

theorem Shares.reload_error {cause : CollaboratorError} (h : s.Shares)
    (hreload : s.reload provider settings entities = (.error cause, after)) : after.Shares := by
  rw [reload_eq_error hreload]
  exact (h.load provider settings entities).1.count _

/-- Every action keeps what is shared, as long as the registry built what is published. -/
theorem Shares.step {action : Action} (h : s.Shares) (hown : action.isOwn = true) :
    (s.step action).Shares := by
  cases action with
  | reload provider settings entities =>
      cases hreload : s.reload provider settings entities with
      | mk outcome after =>
          unfold Service.step
          dsimp only
          rw [hreload]
          cases outcome with
          | ok => exact (h.reload_ok hreload).1
          | error cause => exact h.reload_error hreload
  | load name provider settings entities =>
      obtain ⟨hload, hcached⟩ := h.load provider settings entities
      unfold Service.step
      dsimp only
      rw [load_eq]
      cases hloaded : (s.loaded provider settings entities).outcome with
      | ok snapshot => exact (hload.count _).keep name (hcached snapshot hloaded)
      | error cause => exact hload.count _
  | publish name =>
      unfold Service.step
      dsimp only
      split
      next snapshot hget =>
        have hcached := h.cached snapshot (mem_live_of_kept hget)
        exact ((h.release name).publish hcached).1
      next => exact h
  | adopt snapshot => cases hown
  | keep name router => exact h.keep name (h.cached _ (router_mem_live s router))
  | release name => exact h.release name
  | resolve router context => exact h.congr rfl rfl
  | build router scope routeId params templated anchor => exact h.congr rfl rfl

/-- A new service shares: nothing is kept, and its cache has what its first snapshot uses. -/
theorem shares_start (hstart : start provider settings entities = .ok s) : s.Shares := by
  obtain ⟨hsound, -, hcached⟩ :=
    Snapshot.load_shares CompileCache.sound_empty provider settings entities
  obtain ⟨snapshot, hloaded, hregistry, hkept⟩ := start_eq_ok hstart
  have hlive : s.live = [snapshot] := by
    unfold live current
    rw [hregistry, hkept]
    rfl
  refine ⟨?_, fun held hheld => ?_⟩
  · rw [hregistry]
    exact hsound
  · rw [hlive, List.mem_singleton] at hheld
    rw [hheld, hregistry]
    exact hcached snapshot hloaded

/-! ## What clients see of it -/

/-- The routes of the snapshots that somebody holds are objects of the cache. -/
structure SharesRoutes (s : Service) : Prop where
  /-- Each of them is the very object that the cache has for its tenant and its fingerprint. -/
  cached : ∀ snapshot ∈ s.live, ∀ scope handle, snapshot.table.Uses scope handle →
    ∃ entry, s.registry.cache.find? scope.tenant handle.route.template = some entry ∧
      entry.same handle = true
  /-- Two of one tenant with one fingerprint are one object. -/
  one : ∀ first ∈ s.live, ∀ second ∈ s.live, ∀ scope other handle handle',
    first.table.Uses scope handle → second.table.Uses other handle' →
    scope.tenant = other.tenant →
    handle.route.template.fingerprint = handle'.route.template.fingerprint →
    handle.same handle' = true

/-- What a reload that fails leaves as it was. -/
structure Untouched (s after : Service) : Prop where
  current : after.current = s.current
  kept : after.kept = s.kept
  /-- The gauge reads the same. -/
  gauge : ∀ count, ("router_routes", count) ∈ Event.report after.events ↔
    ("router_routes", count) ∈ Event.report s.events
  /-- Nothing is taken out of the cache. -/
  cache : after.registry.cache.Extends s.registry.cache

theorem Shares.routes (h : s.Shares) : s.SharesRoutes := by
  refine ⟨?_, ?_⟩
  · intro snapshot hlive scope handle huse
    have hholds := h.cached snapshot hlive scope handle huse
    exact ⟨handle, hholds, h.sound.same_self hholds⟩
  · intro first hfirst second hsecond scope other handle handle' huse huse' htenant hmark
    have hholds := h.cached first hfirst scope handle huse
    have hholds' := h.cached second hsecond other handle' huse'
    have hsame : handle = handle' := by
      unfold CompileCache.Holds at hholds hholds'
      rw [htenant, hmark] at hholds
      exact Option.some.inj (hholds.symm.trans hholds')
    rw [← hsame]
    exact h.sound.same_self hholds

theorem untouched_of_reload {cause : CollaboratorError} (h : s.Shares)
    (hreload : s.reload provider settings entities = (.error cause, after)) :
    s.Untouched after := by
  obtain ⟨-, hextends, -⟩ := Snapshot.load_shares h.sound provider settings entities
  rw [reload_eq_error hreload]
  refine ⟨rfl, rfl, fun count => Event.mem_report_append ?_ count, hextends⟩
  -- a load counts what it leaves out, and a reload that it failed
  intro e he
  rcases List.mem_append.mp he with he | he
  · rw [List.eq_of_mem_replicate he]
    decide
  · rw [List.mem_singleton.mp he]
    decide

/-- In every run that publishes what the registry built, the routes of held snapshots are objects
of the cache. Right after a snapshot is published, by a reload or on its own, the cache has what
held snapshots use and nothing else; and a reload that fails changes nothing that clients see. -/
theorem run_shares {actions : List Action} (hstart : start provider settings entities = .ok s)
    (hown : ∀ action ∈ actions, action.isOwn = true) :
    (s.run actions).SharesRoutes ∧
    (∀ provider settings entities after,
      (s.run actions).reload provider settings entities = (.ok (), after) → after.HoldsInUse) ∧
    (∀ name snapshot, (s.run actions).kept.get? name = some snapshot →
      ((s.run actions).step (.publish name)).current = snapshot ∧
      ((s.run actions).step (.publish name)).HoldsInUse) ∧
    (∀ provider settings entities cause after,
      (s.run actions).reload provider settings entities = (.error cause, after) →
      (s.run actions).Untouched after) := by
  have hshares : (s.run actions).Shares :=
    run_induction (shares_start hstart) fun s action hmem h => h.step (hown action hmem)
  refine ⟨hshares.routes, ?_, ?_, ?_⟩
  · intro provider settings entities after hreload
    exact (hshares.reload_ok hreload).2
  · intro name snapshot hget
    unfold step
    dsimp only
    rw [hget]
    have hcached := hshares.cached snapshot (mem_live_of_kept hget)
    exact ⟨rfl, ((hshares.release name).publish hcached).2⟩
  · intro provider settings entities cause after hreload
    exact untouched_of_reload hshares hreload

/-! ## A shop that is down for a while -/

/-- The shop, as long as nobody can say where it is mounted. -/
def shopDown : Provider := (Provider.ofConfig .shop).down

/-- A load of the shop then fails in the end, with all its routes in the cache. -/
theorem load_shopDown (entities : EntityResolver) (cache : CompileCache) :
    (Snapshot.load shopDown .initial entities cache).outcome =
      .error ⟨Provider.collaboratorName, "down"⟩ := by
  have htable : Plan.table shopDown Settings.initial.templatedRouting =
      ⟨Config.shop.answers.steps, .ok ⟨⟩⟩ :=
    @Config.table_ofConfig .shop
  have htenants : shopDown.tenants = .ok [1] := rfl
  unfold Snapshot.load Plan.mounted
  dsimp only
  rw [Traced.bind_of_eq_ok htable, htenants, Traced.ofExcept_bind]
  rfl

/-- Somebody keeps a router, a reload fails, and the shop is loaded again to be published. -/
def shopRun (entities : EntityResolver) : List Action :=
  [.keep "shopper" none, .reload shopDown .initial entities,
    .load "draft" (.ofConfig .shop) Config.shop.settings entities]

theorem run_shares_shop : ∃ entities s snapshot after afterDown,
    start (.ofConfig .shop) Config.shop.settings entities = .ok s ∧
    (∀ action ∈ shopRun entities, action.isOwn = true) ∧
    (s.run (shopRun entities)).SharesRoutes ∧
    (s.run (shopRun entities)).kept.get? "draft" = some snapshot ∧
    ((s.run (shopRun entities)).step (.publish "draft")).HoldsInUse ∧
    (s.run (shopRun entities)).reload (.ofConfig .shop) Config.shop.settings entities =
      (.ok (), after) ∧ after.HoldsInUse ∧
    (s.run (shopRun entities)).reload shopDown .initial entities =
      (.error ⟨Provider.collaboratorName, "down"⟩, afterDown) ∧
    (s.run (shopRun entities)).Untouched afterDown := by
  let entities := EntityResolver.ofRecords []
  have hmounted := congrArg Traced.outcome (@Config.mounted_ofConfig .shop)
  obtain ⟨s, hstart⟩ := start_of_mounted hmounted entities
  have hown : ∀ action ∈ shopRun entities, action.isOwn = true :=
    List.forall_mem_cons.mpr ⟨rfl, List.forall_mem_cons.mpr ⟨rfl,
      List.forall_mem_cons.mpr ⟨rfl, nofun⟩⟩⟩
  obtain ⟨hroutes, hreload, hpublish, hdown⟩ := run_shares hstart hown
  obtain ⟨after, hafter⟩ := reload_of_mounted (s.run (shopRun entities)) hmounted entities
  obtain ⟨afterDown, hafterDown⟩ := reload_of_error (s.run (shopRun entities))
    (load_shopDown entities (s.run (shopRun entities)).registry.cache)
  -- the draft is loaded last
  obtain ⟨snapshot, hsnapshot⟩ :=
    (s.run [.keep "shopper" none, .reload shopDown .initial entities]).kept_of_mounted "draft"
      hmounted entities
  exact ⟨entities, s, snapshot, after, afterDown, hstart, hown, hroutes, hsnapshot,
    (hpublish _ _ hsnapshot).2, hafter, hreload _ _ _ _ hafter, hafterDown,
    hdown _ _ _ _ _ hafterDown⟩

end Waymark.Service
