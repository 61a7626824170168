import Waymark.Proofs.Table

/-! # Shared routes

A cache hands out objects, and a table that was loaded with it keeps them. An object stands in the
cache under its tenant and the fingerprint of its own template, and no two entries are one object.
So as long as the cache keeps an object that a table uses, whoever asks for that tenant and
fingerprint gets the same one; and dropping the entries that nobody uses leaves just those that
somebody uses.
-/

namespace Waymark

theorem Handle.same_iff {a b : Handle} :
    a.same b = true ↔ ∃ slot, a.slot = some slot ∧ b.slot = some slot := by
  unfold same
  rw [Bool.and_eq_true, Option.isSome_iff_exists, beq_iff_eq]
  constructor
  · rintro ⟨⟨slot, ha⟩, hb⟩
    exact ⟨slot, ha, hb ▸ ha⟩
  · rintro ⟨slot, ha, hb⟩
    exact ⟨⟨slot, ha⟩, ha.trans hb.symm⟩

theorem Handle.same_comm (a b : Handle) : a.same b = b.same a := by
  rw [Bool.eq_iff_iff, same_iff, same_iff]
  simp only [and_comm]

namespace CompileCache

/-- Every entry is an object of its own, and goes by the fingerprint of its own template. -/
structure Sound (cache : CompileCache) : Prop where
  keyed : ∀ entry ∈ cache.entries.entries, entry.2.route.template.fingerprint = entry.1.2
  numbered : ∀ entry ∈ cache.entries.entries,
    ∃ slot < cache.nextSlot, entry.2.slot = some slot
  distinct : ∀ entry ∈ cache.entries.entries, ∀ other ∈ cache.entries.entries,
    entry.2.slot = other.2.slot → entry = other

/-- An object is what the cache has for a tenant under the fingerprint of its template. -/
def Holds (cache : CompileCache) (tenant : TenantId) (handle : Handle) : Prop :=
  cache.entries.get? (tenant, handle.route.template.fingerprint) = some handle

/-- A cache has all that another one has. -/
def Extends (after cache : CompileCache) : Prop :=
  ∀ key handle, cache.entries.get? key = some handle → after.entries.get? key = some handle

variable {cache after : CompileCache} {tenant : TenantId} {t : Template} {handle : Handle}

theorem sound_empty : Sound empty := ⟨nofun, nofun, nofun⟩

theorem Extends.refl (cache : CompileCache) : cache.Extends cache := fun _ _ h => h

theorem Extends.trans {later : CompileCache} (h : later.Extends after)
    (h' : after.Extends cache) : later.Extends cache :=
  fun key handle hget => h key handle (h' key handle hget)

theorem Extends.holds (h : after.Extends cache) (hholds : cache.Holds tenant handle) :
    after.Holds tenant handle :=
  h _ handle hholds

/-- Objects that a sound cache has can be told apart by their numbers. -/
theorem Sound.same_self (h : cache.Sound) (hholds : cache.Holds tenant handle) :
    handle.same handle = true := by
  obtain ⟨slot, -, hslot⟩ := h.numbered _ (OrderedMap.mem_of_get? hholds)
  exact Handle.same_iff.mpr ⟨slot, hslot, hslot⟩

/-- Of two objects with one number in a cache, both stand under one key. -/
theorem Sound.eq_of_same (h : cache.Sound) {entry other : (TenantId × String) × Handle}
    (hentry : entry ∈ cache.entries.entries) (hother : other ∈ cache.entries.entries)
    (hsame : entry.2.same other.2 = true) : entry = other := by
  obtain ⟨slot, hslot, hslot'⟩ := Handle.same_iff.mp hsame
  exact h.distinct entry hentry other hother (hslot.trans hslot'.symm)

/-- A new entry takes a number that no entry has. -/
theorem Sound.insert (h : cache.Sound) {route : Route} (hmark : route.template.fingerprint =
    t.fingerprint) : Sound ⟨cache.entries.insert (tenant, t.fingerprint)
      ⟨route, some cache.nextSlot⟩, cache.nextSlot + 1⟩ := by
  have hfresh : ∀ entry ∈ cache.entries.entries, entry.2.slot ≠ some cache.nextSlot := by
    intro entry hentry heq
    obtain ⟨slot, hlt, hslot⟩ := h.numbered entry hentry
    cases hslot.symm.trans heq
    exact absurd hlt (Nat.lt_irrefl _)
  refine ⟨?_, ?_, ?_⟩
  · intro entry hentry
    rcases OrderedMap.mem_of_mem_insert hentry with rfl | hentry
    · exact hmark
    · exact h.keyed entry hentry
  · intro entry hentry
    rcases OrderedMap.mem_of_mem_insert hentry with rfl | hentry
    · exact ⟨cache.nextSlot, Nat.lt_succ_self _, rfl⟩
    · obtain ⟨slot, hlt, hslot⟩ := h.numbered entry hentry
      exact ⟨slot, Nat.lt_succ_of_lt hlt, hslot⟩
  · intro entry hentry other hother heq
    rcases OrderedMap.mem_of_mem_insert hentry with rfl | hentry
    · rcases OrderedMap.mem_of_mem_insert hother with rfl | hother
      · rfl
      · exact absurd heq.symm (hfresh other hother)
    · rcases OrderedMap.mem_of_mem_insert hother with rfl | hother
      · exact absurd heq (hfresh entry hentry)
      · exact h.distinct entry hentry other hother heq

/-- Getting a route takes nothing out of a cache. -/
theorem extends_of_get (hget : cache.get tenant t = .ok (handle, after)) :
    after.Extends cache := by
  obtain ⟨-, rfl⟩ | ⟨hnone, route, -, rfl, rfl⟩ := found_or_new hget
  · exact .refl _
  · intro key other hother
    rw [OrderedMap.get?_insert, if_neg]
    · exact hother
    · rintro rfl
      cases hnone.symm.trans hother

/-- What a cache answers is its entry from then on. -/
theorem get?_of_get (hget : cache.get tenant t = .ok (handle, after)) :
    after.entries.get? (tenant, t.fingerprint) = some handle := by
  obtain ⟨hfound, rfl⟩ | ⟨-, route, -, rfl, rfl⟩ := found_or_new hget
  · exact hfound
  · rw [OrderedMap.get?_insert, if_pos rfl]

/-- Getting a route adds an entry at most, and has the object that it answers. -/
theorem Sound.get (h : cache.Sound) (hget : cache.get tenant t = .ok (handle, after)) :
    after.Sound ∧ after.Extends cache ∧ after.Holds tenant handle := by
  have hsound : after.Sound := by
    obtain ⟨-, rfl⟩ | ⟨-, route, hroute, rfl, rfl⟩ := found_or_new hget
    · exact h
    · exact h.insert (congrArg Template.fingerprint (Route.compile_eq_ok hroute).1)
  refine ⟨hsound, extends_of_get hget, ?_⟩
  have hentry := get?_of_get hget
  unfold Holds
  rw [hsound.keyed _ (OrderedMap.mem_of_get? hentry)]
  exact hentry

/-! ### Dropping what nobody uses -/

variable {inUse : List Handle}

theorem mem_prune {entry : (TenantId × String) × Handle} :
    entry ∈ (cache.prune inUse).entries.entries ↔
      entry ∈ cache.entries.entries ∧ ∃ handle ∈ inUse, handle.same entry.2 = true := by
  simp only [Handle.same_comm _ entry.2, ← List.any_eq_true]
  exact List.mem_filter

theorem Sound.prune (h : cache.Sound) (inUse : List Handle) : (cache.prune inUse).Sound :=
  ⟨fun entry hentry => h.keyed entry (mem_prune.mp hentry).1,
    fun entry hentry => h.numbered entry (mem_prune.mp hentry).1,
    fun entry hentry other hother =>
      h.distinct entry (mem_prune.mp hentry).1 other (mem_prune.mp hother).1⟩

/-- An object in use stays. -/
theorem Sound.holds_prune (h : cache.Sound) (hholds : cache.Holds tenant handle)
    (huse : handle ∈ inUse) : (cache.prune inUse).Holds tenant handle :=
  OrderedMap.get?_of_mem
    (mem_prune.mpr ⟨OrderedMap.mem_of_get? hholds, handle, huse, h.same_self hholds⟩)

end CompileCache

/-! ## Tables that use what the cache has -/

namespace Table

/-- A table has an object in a scope. -/
def Uses (table : Table) (scope : Scope) (handle : Handle) : Prop :=
  ∃ routeId, table.get? scope routeId = some handle

variable {table : Table} {scope other : Scope} {handle added : Handle}

theorem Uses.of_insert (h : (table.insert other added).Uses scope handle) :
    (scope = other ∧ handle = added) ∨ table.Uses scope handle := by
  obtain ⟨routeId, hget⟩ := h
  unfold get? at hget
  rw [bucket_insert] at hget
  split at hget
  next heq =>
    rw [OrderedMap.get?_insert] at hget
    split at hget
    next => exact .inl ⟨heq.symm, (Option.some.inj hget).symm⟩
    next => exact .inr ⟨routeId, hget⟩
  next => exact .inr ⟨routeId, hget⟩

theorem Uses.of_pushLast (h : (table.pushLast other added).Uses scope handle) :
    (scope = other ∧ handle = added) ∨ table.Uses scope handle := by
  obtain ⟨routeId, hget⟩ := h
  unfold get? at hget
  rw [bucket_pushLast] at hget
  split at hget
  next heq =>
    rw [OrderedMap.get?_insert] at hget
    split at hget
    next => exact .inl ⟨heq.symm, (Option.some.inj hget).symm⟩
    next hne =>
      rw [OrderedMap.get?_erase_ne hne] at hget
      exact .inr ⟨routeId, hget⟩
  next => exact .inr ⟨routeId, hget⟩

/-- The objects of a table are those that it has in some scope. -/
theorem mem_handles : handle ∈ table.handles ↔ ∃ scope, table.Uses scope handle := by
  unfold handles
  rw [List.mem_flatMap]
  constructor
  · rintro ⟨bucket, hbucket, hvalue⟩
    obtain ⟨⟨scope, _⟩, hentry, rfl⟩ := List.mem_map.mp hbucket
    obtain ⟨⟨routeId, _⟩, hhandle, rfl⟩ := List.mem_map.mp hvalue
    refine ⟨scope, routeId, ?_⟩
    unfold get? bucket
    rw [OrderedMap.get?_of_mem hentry]
    exact OrderedMap.get?_of_mem hhandle
  · rintro ⟨scope, routeId, hget⟩
    unfold get? bucket at hget
    cases hbucket : table.buckets.get? scope with
    | none =>
        rw [hbucket] at hget
        cases hget
    | some bucket =>
        rw [hbucket] at hget
        exact ⟨bucket, List.mem_map_of_mem (OrderedMap.mem_of_get? hbucket),
          List.mem_map_of_mem (OrderedMap.mem_of_get? hget)⟩

/-- All that a table uses is in a cache. -/
def CachedIn (table : Table) (cache : CompileCache) : Prop :=
  ∀ scope handle, table.Uses scope handle → cache.Holds scope.tenant handle

theorem cachedIn_empty (cache : CompileCache) : empty.CachedIn cache := by
  rintro scope handle ⟨routeId, hget⟩
  cases hget

theorem CachedIn.extend {cache after : CompileCache} (h : table.CachedIn cache)
    (hafter : after.Extends cache) : table.CachedIn after :=
  fun scope handle huse => hafter.holds (h scope handle huse)

/-- What is in use stays in the cache when the rest is dropped. -/
theorem CachedIn.prune {cache : CompileCache} (h : table.CachedIn cache) (hsound : cache.Sound)
    {tables : List Table} (htable : table ∈ tables) :
    table.CachedIn (cache.prune (tables.flatMap handles)) := by
  intro scope handle huse
  have hmem : handle ∈ tables.flatMap handles :=
    List.mem_flatMap.mpr ⟨table, htable, mem_handles.mpr ⟨scope, huse⟩⟩
  exact hsound.holds_prune (h scope handle huse) hmem

/-- A table uses the entry of a tenant under a fingerprint. -/
def UsesEntry (table : Table) (key : TenantId × String) : Prop :=
  ∃ locale handle, table.Uses ⟨key.1, locale⟩ handle ∧
    handle.route.template.fingerprint = key.2

end Table

/-- Of the entries that some tables use and others do not, dropping leaves those that are used. -/
theorem CompileCache.Sound.keys_prune {cache : CompileCache} (h : cache.Sound)
    {tables : List Table} (hcached : ∀ table ∈ tables, table.CachedIn cache)
    (key : TenantId × String) :
    key ∈ (cache.prune (tables.flatMap Table.handles)).entries.keys ↔
      ∃ table ∈ tables, table.UsesEntry key := by
  constructor
  · intro hkey
    obtain ⟨entry, hentry, rfl⟩ := List.mem_map.mp hkey
    obtain ⟨hmem, handle, huse, hsame⟩ := mem_prune.mp hentry
    obtain ⟨table, htable, hhandle⟩ := List.mem_flatMap.mp huse
    obtain ⟨scope, hscope⟩ := Table.mem_handles.mp hhandle
    -- the entry is the one that the table's object stands under
    have hholds := OrderedMap.mem_of_get? (hcached table htable scope handle hscope)
    obtain rfl := h.eq_of_same hholds hmem hsame
    exact ⟨table, htable, scope.locale, handle, hscope, rfl⟩
  · rintro ⟨table, htable, locale, handle, huse, hmark⟩
    have hstays := (hcached table htable).prune h htable ⟨key.1, locale⟩ handle huse
    unfold Holds at hstays
    rw [hmark] at hstays
    exact List.mem_map_of_mem (OrderedMap.mem_of_get? hstays)

namespace LoadState

/-- The table uses what the cache has, and the cache has each object once. -/
structure Shares (state : LoadState) : Prop where
  sound : state.cache.Sound
  cached : state.table.CachedIn state.cache

variable {state : LoadState}

theorem shares_initial {cache : CompileCache} (h : cache.Sound) : (initial cache).Shares :=
  ⟨h, Table.cachedIn_empty cache⟩

/-- A step puts only objects of the cache into the table, and takes nothing out of the cache. -/
theorem Shares.apply (h : state.Shares) (step : LoadStep) :
    (state.apply step).Shares ∧ (state.apply step).cache.Extends state.cache := by
  cases step with
  | add scope t =>
      unfold LoadState.apply
      dsimp only
      split
      next handle after hget =>
        obtain ⟨hsound, hextends, hholds⟩ := h.sound.get hget
        refine ⟨⟨hsound, fun other used huse => ?_⟩, hextends⟩
        rcases huse.of_insert with ⟨rfl, rfl⟩ | huse
        · exact hholds
        · exact h.cached.extend hextends other used huse
      next => exact ⟨⟨h.sound, h.cached⟩, .refl _⟩
  | refuse scope cause => exact ⟨⟨h.sound, h.cached⟩, .refl _⟩
  | addIndex scope =>
      unfold LoadState.apply
      dsimp only
      split
      next handle after hget =>
        obtain ⟨hsound, hextends, hholds⟩ := h.sound.get hget
        refine ⟨⟨hsound, fun other used huse => ?_⟩, hextends⟩
        rcases huse.of_pushLast with ⟨rfl, rfl⟩ | huse
        · exact hholds
        · exact h.cached.extend hextends other used huse
      next => exact ⟨h, .refl _⟩
  | setFamilies tenant families => exact ⟨⟨h.sound, h.cached⟩, .refl _⟩

theorem Shares.applyAll (h : state.Shares) (steps : List LoadStep) :
    (state.applyAll steps).Shares ∧ (state.applyAll steps).cache.Extends state.cache := by
  induction steps generalizing state with
  | nil => exact ⟨h, .refl _⟩
  | cons step steps ih =>
      obtain ⟨hstep, hextends⟩ := h.apply step
      obtain ⟨hsteps, hextends'⟩ := ih hstep
      exact ⟨hsteps, hextends'.trans hextends⟩

end LoadState

/-- Loading takes nothing out of the cache, and the table of a snapshot uses what the cache has
then. -/
theorem Snapshot.load_shares {cache : CompileCache} (h : cache.Sound) (provider : Provider)
    (settings : Settings) (entities : EntityResolver) :
    (load provider settings entities cache).cache.Sound ∧
    (load provider settings entities cache).cache.Extends cache ∧
    ∀ s, (load provider settings entities cache).outcome = .ok s →
      s.table.CachedIn (load provider settings entities cache).cache := by
  obtain ⟨hshares, hextends⟩ := (LoadState.shares_initial h).applyAll
    (Plan.mounted provider settings.templatedRouting).trace
  refine ⟨hshares.sound, hextends, fun s hs => ?_⟩
  obtain ⟨baseUris, -, rfl⟩ := map_eq_ok.mp hs
  exact hshares.cached

end Waymark
