import Mathlib.Tactic.ByContra
import Waymark.Proofs.Outcome
import Waymark.Snapshot

/-! # How a match was found

A match tells its source, and the source tells which stage answered: only the query of the
request gives an explicit match, and only a route that accepts the path gives a match from the
routes. Among the routes it is the first that takes the path.
-/

namespace Waymark

universe u v

theorem Traced.outcome_bind_eq_ok {σ : Type u} {ε α β : Type} {x : Traced σ ε α}
    {f : α → Traced σ ε β} {b : β} :
    (x >>= f).outcome = .ok b ↔ ∃ a, x.outcome = .ok a ∧ (f a).outcome = .ok b := by
  change (x.andThen f).outcome = .ok b ↔ _
  unfold andThen
  cases hx : x.outcome with
  | error e => simp
  | ok a => simp

/-! ## The routes that take a path -/

/-- A route may match by the structure of its rule: its target does not belong to content entities,
or it is marked for a controller inside a module. -/
def Template.IsEligible (t : Template) : Prop :=
  (∀ target, t.target = some target → target ∉ canonicalTargets) ∨
    "fc" ∈ t.params.keys ∧ "module" ∈ t.params.keys

theorem Template.mayMatch_eq_true {t : Template} : t.mayMatch = true ↔ t.IsEligible := by
  unfold mayMatch hasCanonicalTarget isModuleDispatch IsEligible
  rw [Bool.or_eq_true, Bool.and_eq_true, OrderedMap.contains_iff, OrderedMap.contains_iff]
  cases t.target with
  | none => simp
  | some target => simp

/-- A route takes a path that it may match and that its matcher accepts. -/
def Route.Takes (r : Route) (path : String) : Prop :=
  r.template.IsEligible ∧ (r.captures path).isSome = true

/-- A route takes a path, and none before it in a list does. -/
def Handle.IsFirst (handle : Handle) (path : String) (routes : List Handle) : Prop :=
  handle.route.Takes path ∧ ∃ before after, routes = before ++ handle :: after ∧
    ∀ other ∈ before, ¬ other.route.Takes path

theorem Handle.IsFirst.mem {handle : Handle} {path : String} {routes : List Handle}
    (h : handle.IsFirst path routes) : handle ∈ routes := by
  obtain ⟨-, before, after, rfl, -⟩ := h
  exact List.mem_append_right before List.mem_cons_self

/-! ## The stages -/

variable {table : Table} {entities : EntityResolver} {settings : Settings} {found : RouteMatch}

namespace Resolve

variable {scope : Scope} {n : Request.NormalizedPath}

theorem source_of_explicitMatch? {path : String} (h : explicitMatch? path = some found) :
    found.source = .explicit := by
  unfold explicitMatch? at h
  obtain ⟨query, -, h⟩ := Option.bind_eq_some_iff.mp h
  obtain ⟨named, -, rfl⟩ := Option.map_eq_some_iff.mp h
  rfl

theorem askPageController_eq_ok {id : UInt64} {page? : Option String} :
    (askPageController entities id scope).outcome = .ok page? ↔
      entities.pageController id scope = .ok page? := by
  unfold askPageController
  cases entities.pageController id scope <;> simp [Except.mapError]

/-- An entity that a path leads to is shown by the controller of its kind, or else by the one that
the resolver has for the page. -/
theorem entityMatch_of_lookupEntity
    (h : (lookupEntity entities n scope).outcome = .ok (some found)) :
    ∃ hit routeId controller, found = entityMatch hit routeId controller n.localeCode ∧
      (hit.kind.controller? = some controller ∨
        entities.pageController hit.id scope = .ok (some controller)) := by
  unfold lookupEntity at h
  split at h
  next => cases h
  next =>
    obtain ⟨hit?, -, h⟩ := Traced.outcome_bind_eq_ok.mp h
    cases hit? with
    | none => cases h
    | some hit =>
        dsimp only at h
        split at h
        next routeId controller hroute hcontroller =>
          cases h
          exact ⟨hit, routeId, controller, rfl, .inl hcontroller⟩
        next =>
          obtain ⟨page?, hasked, h⟩ := Traced.outcome_bind_eq_ok.mp h
          cases page? with
          | none => cases h
          | some page =>
              cases h
              exact ⟨hit, page, page, rfl, .inr (askPageController_eq_ok.mp hasked)⟩

theorem source_of_lookupEntity (h : (lookupEntity entities n scope).outcome = .ok (some found)) :
    found.source = .entity := by
  obtain ⟨hit, routeId, controller, rfl, -⟩ := entityMatch_of_lookupEntity h
  rfl

/-- A route gives a match exactly for the paths that it takes. -/
theorem tryRoute_eq_none {route : Route} :
    tryRoute settings n route = none ↔ ¬ route.Takes n.path := by
  unfold tryRoute Route.Takes
  rw [← Template.mayMatch_eq_true]
  split
  next hmay => simp [hmay]
  next hmay => simp [hmay]

theorem tryRoute_eq_some {route : Route} :
    tryRoute settings n route = some found ↔ route.template.mayMatch = true ∧
      ∃ captures, route.captures n.path = some captures ∧
        routeMatch settings route captures n.localeCode = found := by
  unfold tryRoute
  split
  next hmay => simp [hmay]
  next hmay => simp [hmay]

/-- The scan finds the match of the first route that takes the path. -/
theorem scan_eq_some_iff {routes : List Handle} :
    scan settings n routes = some found ↔ ∃ handle : Handle, handle.IsFirst n.path routes ∧
      tryRoute settings n handle.route = some found := by
  unfold scan Handle.IsFirst
  rw [List.findSome?_eq_some_iff]
  constructor
  · rintro ⟨before, handle, after, hroutes, htry, hbefore⟩
    have htakes : handle.route.Takes n.path := by
      by_contra hnot
      rw [tryRoute_eq_none.mpr hnot] at htry
      cases htry
    exact ⟨handle, ⟨htakes, before, after, hroutes,
      fun other hother => tryRoute_eq_none.mp (hbefore other hother)⟩, htry⟩
  · rintro ⟨handle, ⟨-, before, after, hroutes, hbefore⟩, htry⟩
    exact ⟨before, handle, after, hroutes, htry,
      fun other hother => tryRoute_eq_none.mpr (hbefore other hother)⟩

/-- The scan finds nothing exactly if no route takes the path. -/
theorem scan_eq_none_iff {routes : List Handle} :
    scan settings n routes = none ↔ ∀ handle ∈ routes, ¬ handle.route.Takes n.path := by
  unfold scan
  rw [List.findSome?_eq_none_iff]
  exact forall₂_congr fun handle _ => tryRoute_eq_none

/-- The first route that takes the path gives the match of what it captures. -/
theorem scan_of_isFirst {routes : List Handle} {handle : Handle}
    {captures : List (String × String)} (hfirst : handle.IsFirst n.path routes)
    (hcaptures : handle.route.captures n.path = some captures) :
    scan settings n routes = some (routeMatch settings handle.route captures n.localeCode) :=
  scan_eq_some_iff.mpr ⟨handle, hfirst, tryRoute_eq_some.mpr
    ⟨Template.mayMatch_eq_true.mpr hfirst.1.1, captures, hcaptures, rfl⟩⟩

theorem exists_scan_eq_some {routes : List Handle} {handle : Handle}
    (h : handle.IsFirst n.path routes) : ∃ found, scan settings n routes = some found ∧
      found.source = .route ∧ found.routeId = handle.route.routeId := by
  obtain ⟨captures, hcaptures⟩ := Option.isSome_iff_exists.mp h.1.2
  exact ⟨_, scan_of_isFirst h hcaptures, rfl, rfl⟩

/-- A match that the scan finds is one that a route gives for the captures of the path. -/
theorem scan_eq_some {routes : List Handle} (h : scan settings n routes = some found) :
    ∃ handle ∈ routes, handle.route.template.mayMatch = true ∧
      ∃ captures, handle.route.captures n.path = some captures ∧
        found = routeMatch settings handle.route captures n.localeCode := by
  obtain ⟨handle, hfirst, htry⟩ := scan_eq_some_iff.mp h
  obtain ⟨hmay, captures, hcaptures, rfl⟩ := tryRoute_eq_some.mp htry
  exact ⟨handle, hfirst.mem, hmay, captures, hcaptures, rfl⟩

theorem source_of_scan {routes : List Handle} (h : scan settings n routes = some found) :
    found.source = .route := by
  obtain ⟨handle, -, -, captures, -, rfl⟩ := scan_eq_some h
  rfl

/-- The stages that may answer a request for a path. -/
theorem resolvePath_eq_matched
    (h : (resolvePath table entities settings scope n).outcome = .ok (.matched found)) :
    found = indexMatch settings n.localeCode ∨
      (lookupEntity entities n scope).outcome = .ok (some found) ∨
      scan settings n (table.routes scope) = some found := by
  unfold resolvePath at h
  split at h
  next => cases h
  next =>
    split at h
    next =>
      cases h
      exact .inl rfl
    next =>
      obtain ⟨entity?, hlookup, h⟩ := Traced.outcome_bind_eq_ok.mp h
      cases entity? with
      | some entity =>
          cases h
          exact .inr (.inl hlookup)
      | none =>
          have hscan := Except.ok.inj h
          cases hfound : scan settings n (table.routes scope) with
          | none =>
              rw [hfound] at hscan
              cases hscan
          | some other =>
              rw [hfound] at hscan
              cases hscan
              exact .inr (.inr rfl)

end Resolve

variable {context : RequestContext}

/-- The path of a request in the form in which it is matched. -/
def RequestContext.normalized (context : RequestContext) : Request.NormalizedPath :=
  Request.normalize context.path context.baseUri context.multiLocale

/-- The stages that may answer a request. -/
theorem resolve_eq_matched
    (h : (resolve table entities settings context).outcome = .ok (.matched found)) :
    Resolve.explicitMatch? context.path = some found ∨
      (∃ localeCode, found = Resolve.indexMatch settings localeCode) ∨
      (Resolve.lookupEntity entities context.normalized context.scope).outcome = .ok (some found) ∨
      Resolve.scan settings context.normalized (table.routes context.scope) = some found := by
  unfold resolve at h
  split at h
  next hexplicit =>
    cases h
    exact .inl hexplicit
  next =>
    split at h
    next =>
      rcases Resolve.resolvePath_eq_matched h with hindex | hpath
      · exact .inr (.inl ⟨_, hindex⟩)
      · exact .inr (.inr hpath)
    next =>
      cases h
      exact .inr (.inl ⟨none, rfl⟩)

theorem resolve_of_explicitMatch? (h : Resolve.explicitMatch? context.path = some found) :
    (resolve table entities settings context).outcome = .ok (.matched found) := by
  unfold resolve
  rw [h]
  rfl

/-- Only the query of a request gives an explicit match. -/
theorem explicitMatch?_of_source
    (h : (resolve table entities settings context).outcome = .ok (.matched found))
    (hsource : found.source = .explicit) : Resolve.explicitMatch? context.path = some found := by
  rcases resolve_eq_matched h with hexplicit | ⟨localeCode, rfl⟩ | hentity | hscan
  · exact hexplicit
  · cases hsource
  · cases hsource.symm.trans (Resolve.source_of_lookupEntity hentity)
  · cases hsource.symm.trans (Resolve.source_of_scan hscan)

/-- A request has an explicit match exactly if its query names a controller. -/
theorem exists_explicit_iff :
    (∃ found, (resolve table entities settings context).outcome = .ok (.matched found) ∧
      found.source = .explicit) ↔ (Resolve.explicitMatch? context.path).isSome = true := by
  constructor
  · rintro ⟨found, hresolve, hsource⟩
    rw [explicitMatch?_of_source hresolve hsource]
    rfl
  · intro hsome
    obtain ⟨found, hexplicit⟩ := Option.isSome_iff_exists.mp hsome
    exact ⟨found, resolve_of_explicitMatch? hexplicit, Resolve.source_of_explicitMatch? hexplicit⟩

/-- Only the first route that takes the path gives a match from the routes. -/
theorem exists_first_of_source
    (h : (resolve table entities settings context).outcome = .ok (.matched found))
    (hsource : found.source = .route) :
    ∃ handle captures,
      Handle.IsFirst handle context.normalized.path (table.routes context.scope) ∧
      handle.route.captures context.normalized.path = some captures ∧
      found = Resolve.routeMatch settings handle.route captures
        context.normalized.localeCode := by
  rcases resolve_eq_matched h with hexplicit | ⟨localeCode, rfl⟩ | hentity | hscan
  · cases hsource.symm.trans (Resolve.source_of_explicitMatch? hexplicit)
  · cases hsource
  · cases hsource.symm.trans (Resolve.source_of_lookupEntity hentity)
  · obtain ⟨handle, hfirst, htry⟩ := Resolve.scan_eq_some_iff.mp hscan
    obtain ⟨-, captures, hcaptures, rfl⟩ := Resolve.tryRoute_eq_some.mp htry
    exact ⟨handle, captures, hfirst, hcaptures, rfl⟩

/-- Only a route that may match and accepts the path gives a match from the routes. -/
theorem exists_route_of_source
    (h : (resolve table entities settings context).outcome = .ok (.matched found))
    (hsource : found.source = .route) :
    ∃ handle ∈ table.routes context.scope,
      ∃ captures, handle.route.captures context.normalized.path = some captures ∧
        found = Resolve.routeMatch settings handle.route captures
          context.normalized.localeCode := by
  obtain ⟨handle, captures, hfirst, hcaptures, hfound⟩ := exists_first_of_source h hsource
  exact ⟨handle, hfirst.mem, captures, hcaptures, hfound⟩

namespace Snapshot

variable {s : Snapshot} {scope : Scope} {path : String}

/-- A request under a snapshot is answered by its query if that names a controller. -/
theorem resolve_of_explicit (h : Resolve.explicitMatch? path = some found) :
    (s.resolve (s.request path scope)).outcome = .ok (.matched found) :=
  @resolve_of_explicitMatch? _ _ _ _ (s.request path scope) h

theorem explicit_of_resolve
    (h : (s.resolve (s.request path scope)).outcome = .ok (.matched found))
    (hsource : found.source = .explicit) : Resolve.explicitMatch? path = some found :=
  @explicitMatch?_of_source _ _ _ _ (s.request path scope) h hsource

end Snapshot

end Waymark
