import Waymark.CompileCache
import Waymark.Proofs.OrderedMap
import Waymark.Proofs.Route.Compile

/-! # Transparency of the compile cache

The entries of a cache go by fingerprint, and what an entry holds was compiled from some template
with that fingerprint. So the cache answers with the route of the template itself as long as the
templates in use have fingerprints of their own. Fingerprints join their parts without marking
where one ends, and different templates may share one; then the cache answers with a route that
is not asked for.
-/

namespace Waymark

namespace CompileCache

/-- Every entry was compiled from a template in use that has the fingerprint of the entry. -/
def Explained (used : TenantId → Template → Prop) (cache : CompileCache) : Prop :=
  ∀ tenant mark handle, ((tenant, mark), handle) ∈ cache.entries.entries →
    ∃ t, used tenant t ∧ t.fingerprint = mark ∧ Route.compile t = .ok handle.route

variable {used : TenantId → Template → Prop} {cache after : CompileCache} {tenant : TenantId}
  {t : Template} {handle : Handle}

theorem explained_empty : Explained used empty := nofun

/-- A cache answers with the entry that it has, or with a new one. -/
theorem found_or_new (hget : cache.get tenant t = .ok (handle, after)) :
    (cache.find? tenant t = some handle ∧ after = cache) ∨
      (cache.find? tenant t = none ∧ ∃ route, Route.compile t = .ok route ∧
        handle = ⟨route, some cache.nextSlot⟩ ∧
        after = ⟨cache.entries.insert (tenant, t.fingerprint) handle, cache.nextSlot + 1⟩) := by
  unfold CompileCache.get at hget
  split at hget
  next found hfound =>
    cases hget
    exact .inl ⟨hfound, rfl⟩
  next hnone =>
    split at hget
    next => cases hget
    next route hroute =>
      cases hget
      exact .inr ⟨hnone, route, hroute, rfl, rfl⟩

/-- What a cache answers was compiled from a template with the fingerprint that is asked for. -/
theorem Explained.get (h : Explained used cache) (ht : used tenant t)
    (hget : cache.get tenant t = .ok (handle, after)) :
    Explained used after ∧ ∃ t', used tenant t' ∧ t'.fingerprint = t.fingerprint ∧
      Route.compile t' = .ok handle.route := by
  obtain ⟨hfound, rfl⟩ | ⟨-, route, hroute, rfl, rfl⟩ := found_or_new hget
  · exact ⟨h, h tenant _ handle (OrderedMap.mem_of_get? hfound)⟩
  · refine ⟨?_, t, ht, rfl, hroute⟩
    intro tenant' mark handle' hmem
    rcases OrderedMap.mem_of_mem_insert hmem with heq | hmem
    · cases heq
      exact ⟨t, ht, rfl, hroute⟩
    · exact h tenant' mark handle' hmem

/-- Dropping entries leaves a cache explained. -/
theorem Explained.prune (h : Explained used cache) (inUse : List Handle) :
    Explained used (cache.prune inUse) :=
  fun tenant mark handle hmem => h tenant mark handle (List.mem_filter.mp hmem).1

/-- A cache refuses nothing that compiles. -/
theorem compile_of_get_eq_error {cause : CompileError} (hget : cache.get tenant t = .error cause) :
    Route.compile t = .error cause := by
  unfold CompileCache.get at hget
  split at hget
  next => cases hget
  next =>
    split at hget
    next hcause =>
      cases hget
      exact hcause
    next => cases hget

end CompileCache

namespace HeldCache

open CompileCache (Explained)

/-- What can happen to a cache: somebody gets a route and perhaps holds it under a name, releases
a name, or drops the entries that nobody holds. -/
inductive Action where
  | get (tenant : TenantId) (t : Template) (name : Option String)
  | release (name : String)
  | prune

/-- What an action makes of a cache. A template that does not compile leaves it as it is. -/
def step (h : HeldCache) : Action → HeldCache
  | .get tenant t name =>
      match h.get tenant t with
      | .error _ => h
      | .ok (handle, after) =>
          match name with
          | some name => after.hold name handle
          | none => after
  | .release name => h.release name
  | .prune => h.prune

/-- The cache after some actions, starting without entries. -/
def run (actions : List Action) : HeldCache := actions.foldl step empty

variable {used : TenantId → Template → Prop}

/-- One action keeps a cache explained. -/
theorem explained_step {h : HeldCache} {action : Action} (hexplained : Explained used h.cache)
    (haction : ∀ tenant t name, action = .get tenant t name → used tenant t) :
    Explained used (h.step action).cache := by
  cases action with
  | get tenant t name =>
      have ht := haction tenant t name rfl
      unfold step
      dsimp only
      split
      next => exact hexplained
      next handle after hget =>
        obtain ⟨⟨handle', cache'⟩, hget', heq⟩ := map_eq_ok.mp hget
        cases heq
        have hafter := (hexplained.get ht hget').1
        cases name with
        | none => exact hafter
        | some name => exact hafter
  | release name => exact hexplained
  | prune => exact hexplained.prune _

theorem explained_run {actions : List Action}
    (hactions : ∀ tenant t name, .get tenant t name ∈ actions → used tenant t) :
    Explained used (run actions).cache := by
  -- the induction is over runs from any cache that is explained
  have hfrom : ∀ (actions : List Action) (h : HeldCache), Explained used h.cache →
      (∀ tenant t name, .get tenant t name ∈ actions → used tenant t) →
      Explained used (actions.foldl step h).cache := by
    intro actions
    induction actions with
    | nil => exact fun h hexplained _ => hexplained
    | cons action actions ih =>
        intro h hexplained hactions
        refine ih _ (explained_step hexplained ?_) fun tenant t name hmem =>
          hactions tenant t name (List.mem_cons_of_mem _ hmem)
        rintro tenant t name rfl
        exact hactions tenant t name List.mem_cons_self
  exact hfrom actions empty CompileCache.explained_empty hactions

/-- A template gets the route of another one that was there first with the same fingerprint. -/
theorem get_after_get {t t' : Template} {route : Route} (tenant : TenantId) (name : Option String)
    (hroute : Route.compile t' = .ok route) (hmark : t'.fingerprint = t.fingerprint) :
    ∃ handle after, (run [.get tenant t' name]).get tenant t = .ok (handle, after) ∧
      handle.route = route := by
  have hfirst : CompileCache.empty.get tenant t' =
      .ok (⟨route, some 0⟩,
        ⟨OrderedMap.empty.insert (tenant, t'.fingerprint) ⟨route, some 0⟩, 1⟩) := by
    simp only [CompileCache.get, CompileCache.find?, CompileCache.empty, OrderedMap.get?_empty,
      hroute]
  have hcache : (run [.get tenant t' name]).cache =
      ⟨OrderedMap.empty.insert (tenant, t'.fingerprint) ⟨route, some 0⟩, 1⟩ := by
    simp only [run, List.foldl_cons, List.foldl_nil, step, HeldCache.get, empty, hfirst, Except.map]
    cases name with
    | none => rfl
    | some name => rfl
  refine ⟨⟨route, some 0⟩, run [.get tenant t' name], ?_, rfl⟩
  refine map_eq_ok.mpr ⟨(⟨route, some 0⟩, (run [.get tenant t' name]).cache), ?_, rfl⟩
  rw [hcache]
  simp only [CompileCache.get, CompileCache.find?, OrderedMap.get?_insert, hmark, if_true]

/-- The cache is transparent for the templates in use, whatever happens to it, if and only if no
template in use shares its fingerprint with a different one that compiles. -/
theorem get_transparent_iff (used : Template → Prop) :
    (∀ actions : List Action, (∀ tenant t name, .get tenant t name ∈ actions → used t) →
      ∀ tenant t handle after, used t → (run actions).get tenant t = .ok (handle, after) →
        Route.compile t = .ok handle.route) ↔
    ∀ t t' route, used t → used t' → Route.compile t' = .ok route →
      t'.fingerprint = t.fingerprint → t' = t := by
  constructor
  · intro htransparent t t' route ht ht' hroute hmark
    -- a run that asks for `t'` first answers with its route when it is asked for `t`
    obtain ⟨handle, after, hget, hhandle⟩ := get_after_get 1 none hroute hmark
    have hused : ∀ tenant u name, .get tenant u name ∈ [Action.get 1 t' none] → used u := by
      intro tenant u name hmem
      cases List.mem_singleton.mp hmem
      exact ht'
    have hown := htransparent _ hused 1 t handle after ht hget
    rw [hhandle] at hown
    rw [← (Route.compile_eq_ok hroute).1, (Route.compile_eq_ok hown).1]
  · intro hdistinct actions hactions tenant t handle after ht hget
    obtain ⟨⟨handle', cache'⟩, hget', heq⟩ := map_eq_ok.mp hget
    cases heq
    have hexplained : Explained (fun _ => used) (run actions).cache := explained_run hactions
    obtain ⟨-, t', ht', hmark, hroute⟩ := hexplained.get ht hget'
    obtain rfl := hdistinct t t' _ ht ht' hroute hmark
    exact hroute

/-- A route whose id holds a bar. -/
def barInId : Template := .plain "a|b" "c" none

/-- A route whose rule holds the bar instead. -/
def barInRule : Template := .plain "a" "b|c" none

theorem compile_barInId : ∃ route, Route.compile barInId = .ok route := by
  have hsegments : Rule.segments barInId = .ok [.literal "c"] :=
    Rule.segments_of_pieces (Rule.Piece.ofRule_of_braceless (by decide))
  exact ⟨_, Route.compile_of_reads hsegments rfl rfl (by decide)⟩

theorem compile_barInRule : ∃ route, Route.compile barInRule = .ok route := by
  have hsegments : Rule.segments barInRule = .ok [.literal "b|c"] :=
    Rule.segments_of_pieces (Rule.Piece.ofRule_of_braceless (by decide))
  exact ⟨_, Route.compile_of_reads hsegments rfl rfl (by decide)⟩

/-- Asked for a route after another with the same fingerprint the cache serves the other one. -/
theorem get_serves_another_route :
    (∃ route, Route.compile barInRule = .ok route) ∧
      ∃ handle after, (run [.get 1 barInId (some "first")]).get 1 barInRule = .ok (handle, after) ∧
        handle.route.template = barInId ∧ barInId ≠ barInRule := by
  obtain ⟨route, hroute⟩ := compile_barInId
  have hmark : barInId.fingerprint = barInRule.fingerprint := by
    decide
  obtain ⟨handle, after, hget, hhandle⟩ := get_after_get 1 (some "first") hroute hmark
  refine ⟨compile_barInRule, handle, after, hget, ?_, by decide⟩
  rw [hhandle]
  exact (Route.compile_eq_ok hroute).1

end HeldCache

end Waymark
