import Mathlib.Data.Set.Card
import Waymark.Proofs.Sharing

/-! # Whose object is whose

Who holds an object got it for some tenant and fingerprint at some time, and in the meantime
others got routes, released them, or had the cache pruned. Still the objects that are held at one
time are one object exactly if they were got for one key, since an entry stays as long as its
object is held and slots are never used again. The keys of the objects that are held are what
pruning leaves.
-/

namespace Waymark

namespace HeldCache

variable {h : HeldCache} {actions : List Action} {action : Action} {tenant : TenantId}
  {t : Template} {name : String} {key key' : TenantId × String} {handle handle' : Handle}

/-! ## What one action does -/

/-- An action hands out an object for a tenant and a fingerprint. -/
def HandsOut (h : HeldCache) (action : Action) (key : TenantId × String) (handle : Handle) :
    Prop :=
  ∃ tenant t name cache, action = .get tenant t name ∧ key = (tenant, t.fingerprint) ∧
    h.cache.get tenant t = .ok (handle, cache)

/-- An action hands out an object for a key that has no entry. -/
def Adds (h : HeldCache) (action : Action) : Prop :=
  ∃ key handle, h.HandsOut action key handle ∧ key ∉ h.cache.entries.keys

/-- Getting a route fails and changes nothing, or the cache has it then, and the name if there is
one. -/
theorem step_get (h : HeldCache) (tenant : TenantId) (t : Template) (name : Option String) :
    ((∃ cause, h.cache.get tenant t = .error cause) ∧ h.step (.get tenant t name) = h) ∨
      ∃ handle cache, h.cache.get tenant t = .ok (handle, cache) ∧
        h.step (.get tenant t name) = ⟨cache, name.elim h.held (h.held.insert · handle)⟩ := by
  unfold step get
  dsimp only
  cases hget : h.cache.get tenant t with
  | error cause => exact .inl ⟨⟨cause, rfl⟩, rfl⟩
  | ok answer =>
      refine .inr ⟨answer.1, answer.2, rfl, ?_⟩
      cases name with
      | none => rfl
      | some name => rfl

/-- One action hands out one object, for one key. -/
theorem HandsOut.unique (hout : h.HandsOut action key handle)
    (hout' : h.HandsOut action key' handle') : key = key' ∧ handle = handle' := by
  obtain ⟨tenant, t, name, cache, rfl, rfl, hget⟩ := hout
  obtain ⟨_, _, _, _, hsame, rfl, hget'⟩ := hout'
  cases hsame
  cases hget.symm.trans hget'
  exact ⟨rfl, rfl⟩

/-- An object is handed out from its entry, or under a slot that is new. -/
theorem HandsOut.found_or_new (hout : h.HandsOut action key handle) :
    h.cache.entries.get? key = some handle ∨
      (handle.slot = some h.cache.nextSlot ∧
        (h.step action).cache.nextSlot = h.cache.nextSlot + 1) := by
  obtain ⟨tenant, t, name, cache, rfl, rfl, hget⟩ := hout
  obtain ⟨⟨cause, hfails⟩, -⟩ | ⟨handle', cache', hget', hstep⟩ := step_get h tenant t name
  · cases hget.symm.trans hfails
  · cases hget.symm.trans hget'
    obtain ⟨hfound, -⟩ | ⟨-, route, -, hhandle, hcache⟩ := CompileCache.found_or_new hget
    · exact .inl hfound
    · refine .inr ⟨by rw [hhandle], ?_⟩
      rw [hstep, hcache]

theorem HandsOut.get? (hout : h.HandsOut action key handle) :
    (h.step action).cache.entries.get? key = some handle := by
  obtain ⟨tenant, t, name, cache, rfl, rfl, hget⟩ := hout
  obtain ⟨⟨cause, hfails⟩, -⟩ | ⟨handle', cache', hget', hstep⟩ := step_get h tenant t name
  · cases hget.symm.trans hfails
  · cases hget.symm.trans hget'
    rw [hstep]
    exact CompileCache.get?_of_get hget

/-- An action other than pruning leaves the cache as it is, or adds a new object that it hands
out. -/
theorem cache_step_cases (h : HeldCache) (action : Action) :
    action = .prune ∨ (h.step action).cache = h.cache ∨
      ∃ key handle, h.HandsOut action key handle ∧ key ∉ h.cache.entries.keys ∧
        (h.step action).cache = ⟨h.cache.entries.insert key handle, h.cache.nextSlot + 1⟩ := by
  cases action with
  | get tenant t name =>
      obtain ⟨-, hstep⟩ | ⟨handle, cache, hget, hstep⟩ := step_get h tenant t name
      · exact .inr (.inl (congrArg HeldCache.cache hstep))
      · rw [hstep]
        obtain ⟨-, rfl⟩ | ⟨hnone, route, -, -, rfl⟩ := CompileCache.found_or_new hget
        · exact .inr (.inl rfl)
        · exact .inr (.inr ⟨_, handle, ⟨tenant, t, name, _, rfl, rfl, hget⟩,
            OrderedMap.get?_eq_none_iff.mp hnone, rfl⟩)
  | release name => exact .inr (.inl rfl)
  | prune => exact .inl rfl

/-- Slots are used up, and never given back. -/
theorem nextSlot_step_le (h : HeldCache) (action : Action) :
    h.cache.nextSlot ≤ (h.step action).cache.nextSlot := by
  obtain rfl | hsame | ⟨key, handle, -, -, hadded⟩ := cache_step_cases h action
  · exact Nat.le_refl _
  · rw [hsame]
  · rw [hadded]
    exact Nat.le_succ _

/-- What is an entry stays one until the cache is pruned. -/
theorem extends_step (h : HeldCache) (hprune : action ≠ .prune) :
    (h.step action).cache.Extends h.cache := by
  obtain heq | hsame | ⟨key, handle, -, hnew, hadded⟩ := cache_step_cases h action
  · exact absurd heq hprune
  · rw [hsame]
    exact .refl _
  · intro other found hfound
    have hne : key ≠ other := by
      rintro rfl
      exact hnew (OrderedMap.mem_keys_iff.mpr ⟨found, hfound⟩)
    rw [hadded, OrderedMap.get?_insert, if_neg hne]
    exact hfound

/-- What is an entry was one before, or is handed out. -/
theorem get?_step (hentry : (h.step action).cache.entries.get? key = some handle) :
    h.cache.entries.get? key = some handle ∨ h.HandsOut action key handle := by
  obtain rfl | hsame | ⟨added, new, hout, -, hadded⟩ := cache_step_cases h action
  · have hmem := (CompileCache.mem_prune.mp (OrderedMap.mem_of_get? hentry)).1
    exact .inl (OrderedMap.get?_of_mem hmem)
  · exact .inl (hsame ▸ hentry)
  · rw [hadded, OrderedMap.get?_insert] at hentry
    split at hentry
    next heq =>
      cases heq
      cases hentry
      exact .inr hout
    next => exact .inl hentry

/-- What is held was held before, or is handed out. -/
theorem held_step (hheld : (h.step action).held.get? name = some handle) :
    h.held.get? name = some handle ∨ ∃ key, h.HandsOut action key handle := by
  cases action with
  | get tenant t name' =>
      obtain ⟨-, hstep⟩ | ⟨handle', cache, hget, hstep⟩ := step_get h tenant t name'
      · rw [hstep] at hheld
        exact .inl hheld
      · rw [hstep] at hheld
        cases name' with
        | none => exact .inl hheld
        | some name' =>
            change (h.held.insert name' handle').get? name = some handle at hheld
            rw [OrderedMap.get?_insert] at hheld
            split at hheld
            next =>
              cases hheld
              exact .inr ⟨_, tenant, t, some name', cache, rfl, rfl, hget⟩
            next => exact .inl hheld
  | release name' =>
      have hmem := List.mem_of_mem_filter (OrderedMap.mem_of_get? hheld)
      exact .inl (OrderedMap.get?_of_mem hmem)
  | prune => exact .inl hheld

theorem get?_prune : h.prune.cache.entries.get? key = some handle ↔
    h.cache.entries.get? key = some handle ∧
      ∃ name held, h.held.get? name = some held ∧ held.same handle = true := by
  rw [OrderedMap.get?_eq_some_iff, OrderedMap.get?_eq_some_iff]
  refine CompileCache.mem_prune.trans (and_congr_right fun _ => ?_)
  simp only [OrderedMap.mem_values_iff]
  constructor
  · rintro ⟨held, ⟨name, hheld⟩, hsame⟩
    exact ⟨name, held, hheld, hsame⟩
  · rintro ⟨name, held, hheld, hsame⟩
    exact ⟨held, ⟨name, hheld⟩, hsame⟩

/-! ## Histories -/

/-- An object was handed out for a tenant and a fingerprint in the course of some actions. -/
def HandedOut (actions : List Action) (key : TenantId × String) (handle : Handle) : Prop :=
  ∃ front action back, actions = front ++ action :: back ∧
    (run front).HandsOut action key handle

/-- Some object that was handed out for a tenant and a fingerprint is held. -/
def Live (actions : List Action) (key : TenantId × String) : Prop :=
  ∃ name handle, (run actions).held.get? name = some handle ∧ HandedOut actions key handle

theorem run_append (actions more : List Action) :
    run (actions ++ more) = more.foldl step (run actions) :=
  List.foldl_append

theorem HandedOut.append (hout : HandedOut actions key handle) (more : List Action) :
    HandedOut (actions ++ more) key handle := by
  obtain ⟨front, action, back, rfl, hout⟩ := hout
  exact ⟨front, action, back ++ more, by simp, hout⟩

theorem handedOut_last (hout : (run actions).HandsOut action key handle) :
    HandedOut (actions ++ [action]) key handle :=
  ⟨actions, action, [], rfl, hout⟩

theorem HandedOut.before_or_last (hout : HandedOut (actions ++ [action]) key handle) :
    HandedOut actions key handle ∨ (run actions).HandsOut action key handle := by
  obtain ⟨front, action', back, heq, hout⟩ := hout
  obtain rfl | ⟨back, last, rfl⟩ := List.eq_nil_or_concat back
  · obtain ⟨rfl, hlast⟩ := List.append_inj' heq rfl
    cases hlast
    exact .inr hout
  · rw [List.concat_eq_append, ← List.cons_append, ← List.append_assoc] at heq
    obtain ⟨rfl, -⟩ := List.append_inj' heq rfl
    exact .inl ⟨front, action', back, rfl, hout⟩

/-- What a history of a cache keeps. -/
structure Kept (actions : List Action) : Prop where
  /-- Slots are used in their order. -/
  numbered : ∀ {key handle}, HandedOut actions key handle →
    ∃ slot < (run actions).cache.nextSlot, handle.slot = some slot
  /-- No slot is used again. -/
  distinct : ∀ {key key' handle handle'}, HandedOut actions key handle →
    HandedOut actions key' handle' → handle.slot = handle'.slot → key = key' ∧ handle = handle'
  entry : ∀ {key handle}, (run actions).cache.entries.get? key = some handle →
    HandedOut actions key handle
  /-- An object that is held is the entry of the key that it was got for. -/
  held : ∀ {name handle}, (run actions).held.get? name = some handle →
    ∃ key, HandedOut actions key handle ∧ (run actions).cache.entries.get? key = some handle

theorem kept_nil : Kept [] where
  numbered := by
    rintro key handle ⟨front, action, back, heq, -⟩
    simp at heq
  distinct := by
    rintro key key' handle handle' ⟨front, action, back, heq, -⟩
    simp at heq
  entry := nofun
  held := nofun

/-- The next slot is none that was handed out. -/
theorem Kept.slot_ne_nextSlot (hkept : Kept actions) (hout : HandedOut actions key handle) :
    handle.slot ≠ some (run actions).cache.nextSlot := by
  intro heq
  obtain ⟨slot, hlt, hslot⟩ := hkept.numbered hout
  cases hslot.symm.trans heq
  exact absurd hlt (Nat.lt_irrefl _)

/-- What one more action hands out was handed out before, or it has a new slot. -/
theorem Kept.handedOut_cases (hkept : Kept actions)
    (hout : HandedOut (actions ++ [action]) key handle) :
    HandedOut actions key handle ∨
      ((run actions).HandsOut action key handle ∧
        handle.slot = some (run actions).cache.nextSlot ∧
        (run (actions ++ [action])).cache.nextSlot = (run actions).cache.nextSlot + 1) := by
  obtain hbefore | hlast := hout.before_or_last
  · exact .inl hbefore
  · obtain hfound | ⟨hslot, hnext⟩ := hlast.found_or_new
    · exact .inl (hkept.entry hfound)
    · rw [run_append]
      exact .inr ⟨hlast, hslot, hnext⟩

theorem Kept.snoc (hkept : Kept actions) (action : Action) : Kept (actions ++ [action]) := by
  have hrun : run (actions ++ [action]) = (run actions).step action := run_append actions [action]
  refine ⟨?_, ?_, ?_, ?_⟩
  · intro key handle hout
    obtain hbefore | ⟨-, hslot, hnext⟩ := hkept.handedOut_cases hout
    · obtain ⟨slot, hlt, hslot⟩ := hkept.numbered hbefore
      rw [hrun]
      exact ⟨slot, Nat.lt_of_lt_of_le hlt (nextSlot_step_le _ action), hslot⟩
    · exact ⟨_, hnext ▸ Nat.lt_succ_self _, hslot⟩
  · intro key key' handle handle' hout hout' heq
    obtain hbefore | ⟨hlast, hslot, -⟩ := hkept.handedOut_cases hout
    · obtain hbefore' | ⟨-, hslot', -⟩ := hkept.handedOut_cases hout'
      · exact hkept.distinct hbefore hbefore' heq
      · exact absurd (heq.trans hslot') (hkept.slot_ne_nextSlot hbefore)
    · obtain hbefore' | ⟨hlast', -, -⟩ := hkept.handedOut_cases hout'
      · exact absurd (heq.symm.trans hslot) (hkept.slot_ne_nextSlot hbefore')
      · exact hlast.unique hlast'
  · intro key handle hentry
    rw [hrun] at hentry
    obtain hbefore | hlast := get?_step hentry
    · exact (hkept.entry hbefore).append [action]
    · exact handedOut_last hlast
  · intro name handle hheld
    rw [hrun] at hheld ⊢
    obtain hbefore | ⟨key, hlast⟩ := held_step hheld
    · obtain ⟨key, hout, hentry⟩ := hkept.held hbefore
      refine ⟨key, hout.append [action], ?_⟩
      by_cases hprune : action = .prune
      · -- pruning keeps the entry, since the object is held
        obtain ⟨slot, -, hslot⟩ := hkept.numbered hout
        subst hprune
        exact get?_prune.mpr
          ⟨hentry, name, handle, hheld, Handle.same_iff.mpr ⟨slot, hslot, hslot⟩⟩
      · exact extends_step _ hprune key handle hentry
    · exact ⟨key, handedOut_last hlast, hlast.get?⟩

theorem kept (actions : List Action) : Kept actions := by
  induction actions using List.reverseRecOn with
  | nil => exact kept_nil
  | append_singleton actions action ih => exact ih.snoc action

/-- Who gets a route that compiles under a name holds it then. -/
theorem held_get {route : Route} (actions : List Action) (tenant : TenantId) (name : String)
    (hroute : Route.compile t = .ok route) :
    ∃ handle, (run (actions ++ [.get tenant t (some name)])).held.get? name = some handle ∧
      HandedOut (actions ++ [.get tenant t (some name)]) (tenant, t.fingerprint) handle := by
  rw [run_append]
  obtain ⟨⟨cause, hfails⟩, -⟩ | ⟨handle, cache, hget, hstep⟩ :=
    step_get (run actions) tenant t (some name)
  · rw [CompileCache.compile_of_get_eq_error hfails] at hroute
    cases hroute
  · refine ⟨handle, ?_, handedOut_last ⟨tenant, t, some name, cache, rfl, rfl, hget⟩⟩
    change ((run actions).step (.get tenant t (some name))).held.get? name = some handle
    rw [hstep]
    exact (OrderedMap.get?_insert ..).trans (if_pos rfl)

/-- Who gets a route under a name leaves alone what other names hold. -/
theorem held_get_of_ne {other : String} (h : HeldCache) (tenant : TenantId) (t : Template)
    (hne : name ≠ other) :
    (h.step (.get tenant t (some name))).held.get? other = h.held.get? other := by
  obtain ⟨-, hstep⟩ | ⟨handle, cache, -, hstep⟩ := step_get h tenant t (some name)
  · rw [hstep]
  · rw [hstep]
    exact (OrderedMap.get?_insert ..).trans (if_neg hne)

/-! ## Identity -/

/-- An object that is held is the entry of the key that it was got for, whatever happened in the
meantime. -/
theorem get?_of_held (hheld : (run actions).held.get? name = some handle)
    (hout : HandedOut actions key handle) :
    (run actions).cache.entries.get? key = some handle := by
  obtain ⟨own, hown, hentry⟩ := (kept actions).held hheld
  obtain ⟨rfl, -⟩ := (kept actions).distinct hout hown rfl
  exact hentry

theorem same_self (hout : HandedOut actions key handle) : handle.same handle = true := by
  obtain ⟨slot, -, hslot⟩ := (kept actions).numbered hout
  exact Handle.same_iff.mpr ⟨slot, hslot, hslot⟩

theorem eq_of_same (hout : HandedOut actions key handle) (hout' : HandedOut actions key' handle')
    (hsame : handle.same handle' = true) : key = key' ∧ handle = handle' := by
  obtain ⟨slot, hslot, hslot'⟩ := Handle.same_iff.mp hsame
  exact (kept actions).distinct hout hout' (hslot.trans hslot'.symm)

/-- Objects that are held are one object exactly if they were got for one key. -/
theorem same_iff_of_held {name' : String} (hheld : (run actions).held.get? name = some handle)
    (hheld' : (run actions).held.get? name' = some handle') (hout : HandedOut actions key handle)
    (hout' : HandedOut actions key' handle') : handle.same handle' = true ↔ key = key' := by
  refine ⟨fun hsame => (eq_of_same hout hout' hsame).1, ?_⟩
  rintro rfl
  cases (get?_of_held hheld hout).symm.trans (get?_of_held hheld' hout')
  exact same_self hout

/-! ## Pruning -/

/-- Pruning leaves the entries whose object is held, as they are. -/
theorem get?_prune_iff_live : (run actions).prune.cache.entries.get? key = some handle ↔
    (run actions).cache.entries.get? key = some handle ∧ Live actions key := by
  rw [get?_prune]
  refine and_congr_right fun hentry => ?_
  constructor
  · rintro ⟨name, held, hheld, hsame⟩
    obtain ⟨own, hown, -⟩ := (kept actions).held hheld
    obtain ⟨rfl, -⟩ := eq_of_same hown ((kept actions).entry hentry) hsame
    exact ⟨name, held, hheld, hown⟩
  · rintro ⟨name, held, hheld, hout⟩
    cases hentry.symm.trans (get?_of_held hheld hout)
    exact ⟨name, handle, hheld, same_self hout⟩

theorem mem_keys_prune : key ∈ (run actions).prune.cache.entries.keys ↔ Live actions key := by
  simp only [OrderedMap.mem_keys_iff, get?_prune_iff_live]
  constructor
  · rintro ⟨handle, -, hlive⟩
    exact hlive
  · rintro ⟨name, handle, hheld, hout⟩
    exact ⟨handle, get?_of_held hheld hout, name, handle, hheld, hout⟩

/-- The keys of the objects that are held are counted by the cache when it has been pruned. -/
theorem size_prune (actions : List Action) :
    (run actions).prune.cache.size = {key | Live actions key}.ncard := by
  have hkeys : {key | Live actions key} =
      ((run actions).prune.cache.entries.keys.toFinset : Set (TenantId × String)) := by
    ext key
    rw [Finset.mem_coe, List.mem_toFinset, mem_keys_prune]
    rfl
  have hnodup : (run actions).prune.cache.entries.keys.Nodup :=
    (run actions).prune.cache.entries.nodup_keys
  rw [hkeys, Set.ncard_coe_finset, List.toFinset_card_of_nodup hnodup, OrderedMap.length_keys]
  rfl

/-! ## Growing -/

/-- An object for a new key makes a cache grow by one. -/
theorem size_step_of_adds (hadds : h.Adds action) :
    (h.step action).cache.size = h.cache.size + 1 := by
  obtain ⟨key, handle, hout, hnew⟩ := hadds
  obtain rfl | hsame | ⟨added, new, hout', hnew', hadded⟩ := cache_step_cases h action
  · obtain ⟨_, _, _, _, heq, -⟩ := hout
    cases heq
  · -- what is handed out has an entry then
    have hentry := hout.get?
    rw [hsame] at hentry
    exact absurd (OrderedMap.mem_keys_iff.mpr ⟨handle, hentry⟩) hnew
  · rw [hadded]
    exact (OrderedMap.size_insert _ _ _).trans (if_neg hnew')

/-- Nothing else that happens to a cache changes it, but pruning. -/
theorem cache_step_of_not_adds (hadds : ¬ h.Adds action) (hprune : action ≠ .prune) :
    (h.step action).cache = h.cache := by
  obtain heq | hsame | ⟨key, handle, hout, hnew, -⟩ := cache_step_cases h action
  · exact absurd heq hprune
  · exact hsame
  · exact absurd ⟨key, handle, hout, hnew⟩ hadds

theorem size_le_size_step (h : HeldCache) (hprune : action ≠ .prune) :
    h.cache.size ≤ (h.step action).cache.size := by
  by_cases hadds : h.Adds action
  · rw [size_step_of_adds hadds]
    exact Nat.le_succ _
  · rw [cache_step_of_not_adds hadds hprune]

/-- Until it is pruned, a cache keeps its entries and does not shrink. -/
theorem extends_foldl_step {more : List Action} (hprune : .prune ∉ more) (h : HeldCache) :
    (more.foldl step h).cache.Extends h.cache ∧
      h.cache.size ≤ (more.foldl step h).cache.size := by
  induction more generalizing h with
  | nil => exact ⟨.refl _, Nat.le_refl _⟩
  | cons action more ih =>
      obtain ⟨hfirst, hrest⟩ := not_or.mp (List.mem_cons.not.mp hprune)
      obtain ⟨hextends, hsize⟩ := ih hrest (h.step action)
      have hne : action ≠ .prune := Ne.symm hfirst
      exact ⟨hextends.trans (extends_step h hne), (size_le_size_step h hne).trans hsize⟩

/-! ## All histories -/

/-- Which objects are one, and what the cache has, in the course of some actions. -/
structure Identifies (actions : List Action) : Prop where
  /-- A template that does not compile changes nothing. -/
  refused : ∀ tenant t name cause, (run actions).get tenant t = .error cause →
    run (actions ++ [.get tenant t name]) = run actions
  /-- What is held was got for some key. -/
  obtained : ∀ name handle, (run actions).held.get? name = some handle →
    ∃ key, HandedOut actions key handle
  /-- What is held is one object exactly if it was got for one key. -/
  same_iff : ∀ name name' handle handle' key key',
    (run actions).held.get? name = some handle → (run actions).held.get? name' = some handle' →
    HandedOut actions key handle → HandedOut actions key' handle' →
    (handle.same handle' = true ↔ key = key')
  /-- Pruning leaves the entries whose object is held, -/
  pruned : ∀ key handle,
    (run (actions ++ [.prune])).cache.entries.get? key = some handle ↔
      (run actions).cache.entries.get? key = some handle ∧ Live actions key
  /-- and with them the keys that objects in use were got for. -/
  counted : (run (actions ++ [.prune])).cache.size = {key | Live actions key}.ncard
  /-- A cache grows by one when it gets a route that is not there. -/
  grows : ∀ action, (run actions).Adds action →
    (run (actions ++ [action])).cache.size = (run actions).cache.size + 1
  /-- Otherwise it stays as it is unless it is pruned. -/
  stays : ∀ action, ¬ (run actions).Adds action → action ≠ .prune →
    (run (actions ++ [action])).cache = (run actions).cache
  /-- So until it is pruned it keeps its entries and does not shrink. -/
  keeps : ∀ more, .prune ∉ more →
    (run (actions ++ more)).cache.Extends (run actions).cache ∧
      (run actions).cache.size ≤ (run (actions ++ more)).cache.size

/-- A cache tells objects apart by their keys, whatever happens to it. -/
theorem run_identifies (actions : List Action) : Identifies actions where
  refused tenant t name cause hget := by
    rw [run_append]
    change (run actions).step (.get tenant t name) = run actions
    unfold step
    dsimp only
    rw [hget]
  obtained name handle hheld := by
    obtain ⟨key, hout, -⟩ := (kept actions).held hheld
    exact ⟨key, hout⟩
  same_iff _ _ _ _ _ _ := same_iff_of_held
  pruned key handle := by
    rw [run_append]
    exact get?_prune_iff_live
  counted := by
    rw [run_append]
    exact size_prune actions
  grows action hadds := by
    rw [run_append]
    exact size_step_of_adds hadds
  stays action hadds hprune := by
    rw [run_append]
    exact cache_step_of_not_adds hadds hprune
  keeps more hprune := by
    rw [run_append]
    exact extends_foldl_step hprune (run actions)

/-- Two templates with one fingerprint, both for one tenant, and one for another. -/
def barRun : List Action :=
  [.get 1 barInId (some "first"), .get 1 barInRule (some "second"), .get 2 barInRule (some "third")]

/-- Templates with one fingerprint are one object for a tenant, and another one for another. The
object survives a release and pruning under its other name. -/
theorem run_identifies_bars : ∃ first second third,
    (run barRun).held.get? "first" = some first ∧
    (run barRun).held.get? "second" = some second ∧
    (run barRun).held.get? "third" = some third ∧
    first.same second = true ∧ ¬ first.same third = true ∧
    (run (barRun ++ [.release "second"] ++ [.prune])).cache.entries.get?
      (1, barInId.fingerprint) = some first := by
  obtain ⟨route, hroute⟩ := compile_barInId
  obtain ⟨route', hroute'⟩ := compile_barInRule
  have hmark : barInRule.fingerprint = barInId.fingerprint := by
    decide
  obtain ⟨first, hfirst, hout⟩ := held_get [] 1 "first" hroute
  obtain ⟨second, hsecond, hout'⟩ :=
    held_get [.get 1 barInId (some "first")] 1 "second" hroute'
  obtain ⟨third, hthird, hout''⟩ := held_get
    [.get 1 barInId (some "first"), .get 1 barInRule (some "second")] 2 "third" hroute'
  rw [hmark] at hout' hout''
  replace hfirst : (run barRun).held.get? "first" = some first :=
    (held_get_of_ne _ 2 barInRule (by decide)).trans
      ((held_get_of_ne _ 1 barInRule (by decide)).trans hfirst)
  replace hsecond : (run barRun).held.get? "second" = some second :=
    (held_get_of_ne _ 2 barInRule (by decide)).trans hsecond
  replace hout : HandedOut barRun (1, barInId.fingerprint) first := hout.append _
  replace hout' : HandedOut barRun (1, barInId.fingerprint) second := hout'.append _
  have hsame := (run_identifies barRun).same_iff
  refine ⟨first, second, third, hfirst, hsecond, hthird,
    (hsame _ _ _ _ _ _ hfirst hsecond hout hout').mpr rfl, ?_, ?_⟩
  · rw [hsame _ _ _ _ _ _ hfirst hthird hout hout'']
    decide
  · have hstill : (run (barRun ++ [.release "second"])).held.get? "first" = some first :=
      (OrderedMap.get?_erase_ne (by decide)).trans hfirst
    have hstill' := hout.append [.release "second"]
    exact ((run_identifies _).pruned _ _).mpr
      ⟨get?_of_held hstill hstill', "first", first, hstill, hstill'⟩

end HeldCache

end Waymark
