import Mathlib.Data.List.TakeWhile
import Waymark.Proofs.Request.Normalize
import Waymark.Proofs.Resolve

/-! # The stages before the routes

A request passes through the stages of its resolution in turn, and only the last of them looks at
the table. So a request that an earlier stage answers has that answer under every table. The one
stage that may fail is the entity resolver: its outage is the failure of the request, and is never
taken for a path that it does not know.
-/

namespace Waymark

/-- Going on with a mere function leaves what was done as it is. -/
theorem Traced.andThen_ok_comp {σ ε α β : Type} (x : Traced σ ε α) (f : α → β) :
    (x.andThen fun a => ok (f a)) = ⟨x.trace, x.outcome.map f⟩ := by
  unfold andThen
  cases x.outcome <;> simp [ok, Except.map]

theorem EntityKind.exists_of_ne_genericPage {kind : EntityKind} (h : kind ≠ .genericPage) :
    ∃ routeId controller, kind.routeId? = some routeId ∧ kind.controller? = some controller := by
  cases kind with
  | genericPage => exact absurd rfl h
  | _ => exact ⟨_, _, rfl, rfl⟩

/-! ## What the entity resolver says of a path -/

namespace EntityResolver

variable {entities : EntityResolver} {path : String} {scope : Scope} {cause : CollaboratorError}

/-- The resolver is out for a path: it cannot look the path up, or it finds a generic page there and
cannot say which controller shows the page. -/
inductive Out (entities : EntityResolver) (path : String) (scope : Scope)
    (cause : CollaboratorError) : Prop
  | lookup (h : entities.lookup path scope = .error cause)
  | pageController {id : UInt64}
      (hhit : entities.lookup path scope = .ok (some ⟨.genericPage, id⟩))
      (hpage : entities.pageController id scope = .error cause)

/-- The questions that a path leads to: one look-up, and one for the controller of a generic page
that is found. -/
def questions (entities : EntityResolver) (path : String) (scope : Scope) : List EntityCall :=
  match entities.lookup path scope with
  | .ok (some ⟨.genericPage, id⟩) => [.lookup path scope, .pageController id scope]
  | _ => [.lookup path scope]

/-- The resolver finds no generic page at a path, but nothing, or an entity with a route of its
own. -/
structure Settles (entities : EntityResolver) (path : String) (scope : Scope)
    (hit? : Option EntityRef) : Prop where
  lookup : entities.lookup path scope = .ok hit?
  noPage : ∀ hit, hit? = some hit → hit.kind ≠ .genericPage

theorem lookup_cases (entities : EntityResolver) (path : String) (scope : Scope) :
    (∃ cause, entities.lookup path scope = .error cause) ∨
      (∃ id, entities.lookup path scope = .ok (some ⟨.genericPage, id⟩)) ∨
      ∃ hit?, entities.Settles path scope hit? := by
  cases hlookup : entities.lookup path scope with
  | error cause => exact .inl ⟨cause, rfl⟩
  | ok hit? =>
      by_cases hpage : ∃ id, hit? = some ⟨.genericPage, id⟩
      · obtain ⟨id, rfl⟩ := hpage
        exact .inr (.inl ⟨id, rfl⟩)
      · refine .inr (.inr ⟨hit?, hlookup, ?_⟩)
        rintro ⟨kind, id⟩ rfl rfl
        exact hpage ⟨id, rfl⟩

theorem out_iff_of_error {found : CollaboratorError}
    (h : entities.lookup path scope = .error found) :
    entities.Out path scope cause ↔ cause = found := by
  constructor
  · rintro (hout | ⟨hhit, -⟩)
    · exact Except.error.inj (hout.symm.trans h)
    · cases hhit.symm.trans h
  · rintro rfl
    exact .lookup h

theorem out_iff_of_page {id : UInt64}
    (h : entities.lookup path scope = .ok (some ⟨.genericPage, id⟩)) :
    entities.Out path scope cause ↔ entities.pageController id scope = .error cause := by
  constructor
  · rintro (hout | ⟨hhit, hpage⟩)
    · cases hout.symm.trans h
    · cases hhit.symm.trans h
      exact hpage
  · exact .pageController h

theorem Settles.not_out {hit? : Option EntityRef} (h : entities.Settles path scope hit?) :
    ¬ entities.Out path scope cause := by
  rintro (hout | ⟨hhit, -⟩)
  · cases hout.symm.trans h.lookup
  · exact h.noPage _ (Except.ok.inj (h.lookup.symm.trans hhit)) rfl

theorem Settles.questions_eq {hit? : Option EntityRef} (h : entities.Settles path scope hit?) :
    entities.questions path scope = [.lookup path scope] := by
  unfold questions
  rw [h.lookup]
  split
  next id hhit => exact absurd rfl (h.noPage _ (Except.ok.inj hhit))
  next => rfl

end EntityResolver

namespace Resolve

variable {entities : EntityResolver} {n : Request.NormalizedPath} {scope : Scope}
  {cause : CollaboratorError}

theorem lookupEntity_of_error (hpath : entityPath n ≠ "")
    (h : entities.lookup (entityPath n) scope = .error cause) :
    lookupEntity entities n scope =
      ⟨[.lookup (entityPath n) scope], .error (.collaborator cause)⟩ := by
  unfold lookupEntity askLookup
  rw [if_neg hpath, h]
  rfl

/-- The match that a generic page has, if a controller shows it. -/
def pageMatch? (n : Request.NormalizedPath) (id : UInt64) (page? : Option String) :
    Option RouteMatch :=
  page?.map fun page => entityMatch ⟨.genericPage, id⟩ page page n.localeCode

theorem lookupEntity_of_page {id : UInt64} (hpath : entityPath n ≠ "")
    (h : entities.lookup (entityPath n) scope = .ok (some ⟨.genericPage, id⟩)) :
    lookupEntity entities n scope =
      ⟨[.lookup (entityPath n) scope, .pageController id scope],
        ((entities.pageController id scope).map (pageMatch? n id)).mapError .collaborator⟩ := by
  unfold lookupEntity askLookup askPageController
  rw [if_neg hpath, h]
  dsimp only [bind, Traced.andThen, Except.mapError, EntityKind.routeId?]
  cases hpage : entities.pageController id scope with
  | error cause => rfl
  | ok page? => cases page? <;> rfl

theorem lookupEntity_of_none (hpath : entityPath n ≠ "")
    (h : entities.lookup (entityPath n) scope = .ok none) :
    lookupEntity entities n scope = ⟨[.lookup (entityPath n) scope], .ok none⟩ := by
  unfold lookupEntity askLookup
  rw [if_neg hpath, h]
  rfl

/-- An entity of a kind with a route of its own is shown by the controller of its kind. -/
theorem lookupEntity_of_hit {hit : EntityRef} {routeId controller : String}
    (hpath : entityPath n ≠ "") (h : entities.lookup (entityPath n) scope = .ok (some hit))
    (hroute : hit.kind.routeId? = some routeId)
    (hcontroller : hit.kind.controller? = some controller) :
    lookupEntity entities n scope = ⟨[.lookup (entityPath n) scope],
      .ok (some (entityMatch hit routeId controller n.localeCode))⟩ := by
  unfold lookupEntity askLookup
  rw [if_neg hpath, h]
  dsimp only [bind, Traced.andThen, Except.mapError]
  rw [hroute, hcontroller]
  rfl

theorem lookupEntity_of_settles {hit? : Option EntityRef} (hpath : entityPath n ≠ "")
    (h : entities.Settles (entityPath n) scope hit?) :
    ∃ found?, lookupEntity entities n scope = ⟨[.lookup (entityPath n) scope], .ok found?⟩ := by
  cases hit? with
  | none => exact ⟨none, lookupEntity_of_none hpath h.lookup⟩
  | some hit =>
      obtain ⟨routeId, controller, hroute, hcontroller⟩ :=
        EntityKind.exists_of_ne_genericPage (h.noPage hit rfl)
      exact ⟨_, lookupEntity_of_hit hpath h.lookup hroute hcontroller⟩

/-- A request that gets to the entity resolver fails exactly if the resolver is out for its path. -/
theorem lookupEntity_eq_error (hpath : entityPath n ≠ "") {error : RoutingError} :
    (lookupEntity entities n scope).outcome = .error error ↔
      ∃ cause, error = .collaborator cause ∧ entities.Out (entityPath n) scope cause := by
  rcases entities.lookup_cases (entityPath n) scope with ⟨cause, h⟩ | ⟨id, h⟩ | ⟨hit?, h⟩
  · rw [lookupEntity_of_error hpath h]
    simp only [EntityResolver.out_iff_of_error h, exists_eq_right, Except.error.injEq]
    exact eq_comm
  · rw [lookupEntity_of_page hpath h]
    simp only [EntityResolver.out_iff_of_page h]
    cases entities.pageController id scope with
    | error cause => simp [Except.map, Except.mapError, eq_comm]
    | ok page? => simp [Except.map, Except.mapError]
  · obtain ⟨found?, hlookup⟩ := lookupEntity_of_settles hpath h
    rw [hlookup]
    simp [h.not_out]

theorem trace_lookupEntity (hpath : entityPath n ≠ "") :
    (lookupEntity entities n scope).trace = entities.questions (entityPath n) scope := by
  rcases entities.lookup_cases (entityPath n) scope with ⟨cause, h⟩ | ⟨id, h⟩ | ⟨hit?, h⟩
  · rw [lookupEntity_of_error hpath h, EntityResolver.questions, h]
  · rw [lookupEntity_of_page hpath h, EntityResolver.questions, h]
  · obtain ⟨found?, hlookup⟩ := lookupEntity_of_settles hpath h
    rw [hlookup, h.questions_eq]

end Resolve

/-! ## Requests that get to the entity resolver -/

namespace RequestContext

variable {context : RequestContext}

/-- A request that gets to the entity resolver: it names no controller, routing is templated, and
its path is neither empty nor the front script's nor a static asset's. -/
structure AsksEntities (context : RequestContext) : Prop where
  notExplicit : Resolve.explicitMatch? context.path = none
  templated : context.templatedRouting = true
  notAsset : Request.isStaticAsset context.normalized.path = false
  notRoot : context.normalized.path ≠ ""
  notScript : context.normalized.indexScript = false

theorem head?_entityPath (n : Request.NormalizedPath) :
    (Resolve.entityPath n).toList.head? ≠ some '/' := by
  unfold Resolve.entityPath
  rw [String.toList_ofList]
  intro hhead
  have hnot := List.head?_dropWhile_not (· == '/') n.path.toList
  rw [hhead] at hnot
  simp at hnot

/-- A path in normal form has more than slashes, if it is not empty. -/
theorem entityPath_ne_empty (hroot : context.normalized.path ≠ "") :
    Resolve.entityPath context.normalized ≠ "" := by
  intro hempty
  have hslashes : ∀ c ∈ context.normalized.path.toList, c = '/' := by
    have hnil := congrArg String.toList hempty
    rw [Resolve.entityPath, String.toList_ofList, String.toList_empty,
      List.dropWhile_eq_nil_iff] at hnil
    exact fun c hc => by simpa using hnil c hc
  have hback := Request.back_of_normalize context.path context.baseUri context.multiLocale
  cases hlast : context.normalized.path.toList.getLast? with
  | none => exact hroot (String.toList_eq_nil_iff.mp (List.getLast?_eq_none_iff.mp hlast))
  | some c =>
      rw [hslashes c (List.mem_of_getLast? hlast)] at hlast
      exact hback hlast

end RequestContext

namespace Resolve

variable {entities : EntityResolver} {settings : Settings} {context : RequestContext}

theorem ofMatch?_eq_matched {found? : Option RouteMatch} {found : RouteMatch} :
    ofMatch? found? = .matched found ↔ found? = some found := by
  cases found? <;> simp [ofMatch?]

theorem ofMatch?_eq_notFound {found? : Option RouteMatch} :
    ofMatch? found? = .notFound ↔ found? = none := by
  cases found? <;> simp [ofMatch?]

/-- Where the entity resolver answers that it knows nothing, the routes decide. -/
theorem resolve_of_asksEntities (h : context.AsksEntities) (table : Table) :
    resolve table entities settings context =
      ⟨(lookupEntity entities context.normalized context.scope).trace,
        (lookupEntity entities context.normalized context.scope).outcome.map fun entity? =>
          entity?.elim (ofMatch? (scan settings context.normalized (table.routes context.scope)))
            .matched⟩ := by
  have hpath : ¬ (context.normalized.path = "" ∨ context.normalized.indexScript = true) := by
    rintro (hroot | hscript)
    · exact h.notRoot hroot
    · rw [h.notScript] at hscript
      cases hscript
  unfold resolve
  rw [h.notExplicit]
  dsimp only
  rw [if_pos h.templated]
  change resolvePath table entities settings context.scope context.normalized = _
  unfold resolvePath
  rw [h.notAsset, if_neg Bool.false_ne_true, if_neg hpath, ← Traced.andThen_ok_comp]
  change (lookupEntity entities context.normalized context.scope).andThen _ = _
  congr 1
  funext entity?
  cases entity? <;> rfl

/-- A request that does not get to the entity resolver is answered, and neither a table nor a
resolver has a part in the answer. -/
theorem resolve_of_not_asksEntities (h : ¬ context.AsksEntities) (settings : Settings) :
    ∃ resolution : Resolution, ∀ table entities,
      resolve table entities settings context = .ok resolution := by
  unfold resolve
  cases hexplicit : explicitMatch? context.path with
  | some found => exact ⟨.matched found, fun _ _ => rfl⟩
  | none =>
      by_cases htemplated : context.templatedRouting = true
      · dsimp only
        simp only [htemplated, if_true]
        unfold resolvePath
        by_cases hasset : Request.isStaticAsset context.normalized.path = true
        · exact ⟨.notFound, fun _ _ => if_pos hasset⟩
        · have hearly : context.normalized.path = "" ∨ context.normalized.indexScript = true := by
            by_contra hnot
            obtain ⟨hroot, hscript⟩ := not_or.mp hnot
            exact h ⟨hexplicit, htemplated, eq_false_of_ne_true hasset, hroot,
              eq_false_of_ne_true hscript⟩
          exact ⟨_, fun _ _ => (if_neg hasset).trans (if_pos hearly)⟩
      · exact ⟨.matched (indexMatch settings none), fun _ _ => if_neg htemplated⟩

/-- The answer to a request is the same under every table, or it is what the routes of the scope
make of the path. -/
theorem resolve_cases (entities : EntityResolver) (settings : Settings) (context : RequestContext) :
    (∃ answer, ∀ table, resolve table entities settings context = answer) ∨
    ∃ calls, ∀ table, resolve table entities settings context =
      ⟨calls, .ok (ofMatch? (scan settings context.normalized (table.routes context.scope)))⟩ := by
  by_cases hasks : context.AsksEntities
  · cases hlookup : lookupEntity entities context.normalized context.scope with
    | mk calls outcome =>
        simp only [resolve_of_asksEntities hasks, hlookup]
        cases outcome with
        | error cause => exact .inl ⟨⟨calls, .error cause⟩, fun _ => rfl⟩
        | ok entity? =>
            cases entity? with
            | some found => exact .inl ⟨⟨calls, .ok (.matched found)⟩, fun _ => rfl⟩
            | none => exact .inr ⟨calls, fun _ => rfl⟩
  · obtain ⟨resolution, hresolve⟩ := resolve_of_not_asksEntities hasks settings
    exact .inl ⟨.ok resolution, fun table => hresolve table entities⟩

/-! ## Who decides -/

/-- The entity resolver is asked before any route, and its outage is an outage of the request. -/
structure AsksFirst (table : Table) (entities : EntityResolver) (settings : Settings)
    (context : RequestContext) : Prop where
  /-- A request fails exactly if it gets to the resolver and the resolver is out for its path. -/
  fails : ∀ error, (resolve table entities settings context).outcome = .error error ↔
    context.AsksEntities ∧ ∃ cause, error = .collaborator cause ∧
      entities.Out (entityPath context.normalized) context.scope cause
  /-- Nobody else asks anything. -/
  silent : ¬ context.AsksEntities → (resolve table entities settings context).trace = []
  asks : context.AsksEntities → (resolve table entities settings context).trace =
    entities.questions (entityPath context.normalized) context.scope
  /-- What is looked up is a relative path. -/
  relative : context.AsksEntities → entityPath context.normalized ≠ "" ∧
    (entityPath context.normalized).toList.head? ≠ some '/'
  /-- What is not left to the routes is the same under every table. -/
  decided : ∀ other, (∃ error, (resolve table entities settings context).outcome = .error error) ∨
      (∃ found, (resolve table entities settings context).outcome = .ok (.matched found) ∧
        found.source ≠ .route) →
    resolve other entities settings context = resolve table entities settings context

theorem resolve_asksFirst (table : Table) (entities : EntityResolver) (settings : Settings)
    (context : RequestContext) : AsksFirst table entities settings context where
  fails error := by
    by_cases hasks : context.AsksEntities
    · have hpath := RequestContext.entityPath_ne_empty hasks.notRoot
      rw [resolve_of_asksEntities hasks, map_eq_error, lookupEntity_eq_error hpath,
        and_iff_right hasks]
    · obtain ⟨resolution, hresolve⟩ := resolve_of_not_asksEntities hasks settings
      rw [hresolve]
      simp [hasks, Traced.ok]
  silent hasks := by
    obtain ⟨resolution, hresolve⟩ := resolve_of_not_asksEntities hasks settings
    rw [hresolve]
    rfl
  asks hasks := by
    rw [resolve_of_asksEntities hasks]
    dsimp only
    rw [trace_lookupEntity (RequestContext.entityPath_ne_empty hasks.notRoot)]
  relative hasks :=
    ⟨RequestContext.entityPath_ne_empty hasks.notRoot, RequestContext.head?_entityPath _⟩
  decided other h := by
    rcases resolve_cases entities settings context with ⟨answer, hanswer⟩ | ⟨calls, hscan⟩
    · rw [hanswer, hanswer]
    · rw [hscan table] at h
      rcases h with ⟨error, herror⟩ | ⟨found, hfound, hsource⟩
      · cases herror
      · have hmatch := ofMatch?_eq_matched.mp (Except.ok.inj hfound)
        exact absurd (source_of_scan hmatch) hsource

/-! ## A store that is down -/

/-- A request for a mug. -/
def mugRequest : RequestContext := ⟨"/mug/?ref=home", ⟨1, 1⟩, true, false, "/"⟩

/-- What is reported while the store is down. -/
def storeDown : CollaboratorError := ⟨"entity resolver", "down"⟩

/-- The store, as long as nobody reaches it. -/
def downStore : EntityResolver where
  lookup _ _ := .error storeDown
  reverse _ _ _ _ := .error storeDown
  pageController _ _ := .error storeDown

theorem normalized_mugRequest : mugRequest.normalized = ⟨"/mug", none, false⟩ := by
  decide +kernel

theorem asksEntities_mugRequest : mugRequest.AsksEntities := by
  refine ⟨by decide +kernel, rfl, ?_, ?_, ?_⟩
  all_goals rw [normalized_mugRequest]
  · decide
  · decide

/-- Whatever routes there are, nobody learns that there is no mug. -/
theorem resolve_asksFirst_downStore :
    (resolve .empty downStore .initial mugRequest).outcome = .error (.collaborator storeDown) ∧
    (resolve .empty downStore .initial mugRequest).trace = [.lookup "mug" ⟨1, 1⟩] ∧
    ∀ table, resolve table downStore .initial mugRequest =
      resolve .empty downStore .initial mugRequest := by
  have hfirst := resolve_asksFirst .empty downStore .initial mugRequest
  have hpath : entityPath mugRequest.normalized = "mug" := by
    rw [normalized_mugRequest]
    decide
  have hout : (resolve .empty downStore .initial mugRequest).outcome =
      .error (.collaborator storeDown) :=
    (hfirst.fails _).mpr ⟨asksEntities_mugRequest, storeDown, rfl, .lookup rfl⟩
  have hasked := hfirst.asks asksEntities_mugRequest
  rw [hpath] at hasked
  exact ⟨hout, hasked, fun table => hfirst.decided table (.inl ⟨_, hout⟩)⟩

end Resolve

end Waymark
