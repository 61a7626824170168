import Waymark.Proofs.Dispatch
import Waymark.Proofs.Priority
import Waymark.Proofs.Request.Controller

/-! # What a match from the routes carries

The parameters of such a match are written in three layers: what the route captured, the parameters
of its template over that, and over both the module and the mark that come from splitting a
controller off. The controller is selected before the second layer is written, so no parameter of a
template is taken for it: `fc` alone bears on it, where it says which default takes its place.
-/

namespace Waymark

open OrderedMap (writeOver)

namespace Route

variable {r : Route} {path : String} {captures : List (String × String)}

/-- What is captured stands in the order of the groups. -/
theorem sublist_groupNames (h : r.captures path = some captures) :
    (captures.map Prod.fst).Sublist r.regex.expr.groupNames := by
  obtain ⟨t, -, rfl⟩ := Option.map_eq_some_iff.mp h
  induction r.regex.expr.groupNames with
  | nil => exact .slnil
  | cons name names ih =>
      cases hgroup : t.group? name with
      | none =>
          rw [List.filterMap_cons_none (by rw [hgroup]; rfl)]
          exact ih.cons name
      | some found =>
          rw [List.filterMap_cons_some (by rw [hgroup]; rfl)]
          exact ih.cons_cons name

theorem nodup_captures (hcompiled : r.IsCompiled) (h : r.captures path = some captures) :
    (captures.map Prod.fst).Nodup :=
  (sublist_groupNames h).nodup (nodup_groupNames hcompiled)

/-- The same route with other parameters. -/
def withParams (r : Route) (params : Params) : Route :=
  { r with template := { r.template with params } }

end Route

namespace Resolve

open Request (InModule LeadsIntoModule controllerName)

/-! ## The controller that is selected -/

/-- The captures that a match shows. -/
def shown (captures : List (String × String)) : List (String × String) :=
  captures.filter fun capture => capture.1 ∉ internalGroups

/-- A name is selected as the controller: it is the target, or there is no target and it was
captured. -/
def Selects (target : Option String) (captures : List (String × String)) (name : String) : Prop :=
  target = some name ∨ target = none ∧ ("controller", name) ∈ captures

/-- What a target and captures lead to: the pairs that come from splitting a controller off, and the
name of the controller that is left, if there is one. -/
inductive SplitsOff (target : Option String) (captures : List (String × String)) :
    List (String × String) → Option String → Prop
  | missing (hnone : ∀ name, ¬ Selects target captures name) : SplitsOff target captures [] none
  | plain {name : String} (hname : Selects target captures name)
      (hnot : ∀ before moduleName inner, ¬ InModule name.toList before moduleName inner) :
      SplitsOff target captures [] (some name)
  | inModule {name : String} {moduleName inner : List Char} (hname : Selects target captures name)
      (hleads : LeadsIntoModule name.toList moduleName inner) :
      SplitsOff target captures [("module", String.ofList moduleName), ("fc", "module")]
        (some (String.ofList inner))

variable {settings : Settings} {r : Route} {captures : List (String × String)}
  {localeCode : Option String}

theorem entries_boundParams (hnodup : (captures.map Prod.fst).Nodup) :
    (boundParams captures).entries = shown captures := by
  have hshown : (captures.filter fun capture => !internalGroups.contains capture.1) =
      shown captures :=
    List.filter_congr fun capture _ => by simp
  rw [boundParams, hshown]
  exact OrderedMap.entries_ofList (hnodup.sublist (List.filter_sublist.map _))

/-- The match shows a capture under its name, unless the name is never shown. -/
theorem get?_boundParams (hnodup : (captures.map Prod.fst).Nodup) {name value : String} :
    (boundParams captures).get? name = some value ↔
      (name, value) ∈ captures ∧ name ∉ internalGroups := by
  have hmem : (name, value) ∈ shown captures ↔
      (name, value) ∈ captures ∧ name ∉ internalGroups := by
    rw [shown, List.mem_filter, decide_eq_true_eq]
  rw [← hmem, ← entries_boundParams hnodup]
  exact ⟨OrderedMap.mem_of_get?, OrderedMap.get?_of_mem⟩

theorem selected?_eq_some (hnodup : (captures.map Prod.fst).Nodup) {name : String} :
    selected? r captures = some name ↔ Selects r.template.target captures name := by
  unfold selected? selectedController Selects
  cases r.template.target with
  | some target => simp
  | none => simp [get?_boundParams hnodup, internalGroups]

/-- A target and captures lead to one thing only. -/
theorem splitsOff_iff (hnodup : (captures.map Prod.fst).Nodup) {added : List (String × String)}
    {name? : Option String} :
    SplitsOff r.template.target captures added name? ↔
      splitOff (selected? r captures) = (added, name?) := by
  constructor
  · intro h
    cases h with
    | missing hnone =>
        have hselected : selected? r captures = none :=
          Option.eq_none_iff_forall_ne_some.mpr fun name hname =>
            hnone name ((selected?_eq_some hnodup).mp hname)
        rw [hselected]
        rfl
    | plain hname hnot =>
        rw [(selected?_eq_some hnodup).mpr hname]
        exact splitOff_of_plain (Request.splitModule?_eq_none_iff.mpr hnot)
    | inModule hname hleads =>
        rw [(selected?_eq_some hnodup).mpr hname]
        exact splitOff_of_module (Request.splitModule?_eq_some_iff.mpr hleads)
  · intro h
    cases hselected : selected? r captures with
    | none =>
        rw [hselected] at h
        obtain ⟨rfl, rfl⟩ := Prod.mk.inj h
        refine .missing fun name hname => ?_
        cases hselected.symm.trans ((selected?_eq_some hnodup).mpr hname)
    | some name =>
        have hname := (selected?_eq_some hnodup).mp hselected
        rw [hselected] at h
        cases hsplit : Request.splitModule? name.toList with
        | none =>
            obtain ⟨rfl, rfl⟩ := Prod.mk.inj ((splitOff_of_plain hsplit).symm.trans h)
            exact .plain hname (Request.splitModule?_eq_none_iff.mp hsplit)
        | some names =>
            obtain ⟨rfl, rfl⟩ := Prod.mk.inj ((splitOff_of_module hsplit).symm.trans h)
            exact .inModule hname (Request.splitModule?_eq_some_iff.mp hsplit)

/-- Of the parameters of a template, only `fc` bears on the controller. -/
theorem controller_withParams {params : Params}
    (h : params.get? "fc" = r.template.params.get? "fc") :
    (routeMatch settings (r.withParams params) captures localeCode).controller =
      (routeMatch settings r captures localeCode).controller := by
  have hselected : selected? (r.withParams params) captures = selected? r captures := rfl
  have hgiven : (givenParams (r.withParams params) captures).get? "fc" =
      (givenParams r captures).get? "fc" := by
    rw [get?_givenParams, get?_givenParams]
    exact congrArg (Option.or · _) h
  rw [controller_eq_chosen, controller_eq_chosen, moduleDispatch_eq, moduleDispatch_eq, hselected,
    OrderedMap.get?_insertAll, OrderedMap.get?_insertAll, hgiven]

/-! ## The match -/

/-- A match has the parameters and the controller that a route gives for some captures. -/
structure Carries (settings : Settings) (r : Route) (captures added : List (String × String))
    (name? : Option String) (found : RouteMatch) : Prop where
  routeId : found.routeId = r.routeId
  params : found.params.entries =
    writeOver (writeOver (shown captures) r.template.params.entries) added
  /-- A parameter of the template goes before a capture of the same name. -/
  fixed : ∀ name value, r.template.params.get? name = some value → name ∉ added.map Prod.fst →
    found.params.get? name = some value
  /-- A name that is never shown as a capture comes from the template only. -/
  internal : ∀ name ∈ internalGroups,
    name ∈ found.params.keys ↔ name ∈ r.template.params.keys
  moduleDispatch : found.moduleDispatch = true ↔ found.params.get? "fc" = some "module"
  noHyphen : '-' ∉ found.controller.toList
  /-- Where no controller is named, or it is the index, one of the settings takes its place: the
  one for modules if the match leads into a module, and the other one if not. -/
  substituted : (name? = none ∨ name? = some "" ∨ name? = some Families.indexId) →
    found.controller = controllerName
      (if found.moduleDispatch then settings.moduleDefaultController
        else settings.defaultController)
  named : ∀ name, name? = some name → name ≠ "" → name ≠ Families.indexId →
    found.controller = controllerName name
  /-- Of the parameters of the template, only `fc` bears on the controller. -/
  unmoved : ∀ params : Params, params.get? "fc" = r.template.params.get? "fc" →
    (routeMatch settings (r.withParams params) captures found.localeCode).controller =
      found.controller

theorem splitOff_spec (controller : Option String) :
    ((splitOff controller).1.map Prod.fst).Nodup ∧
      ∀ name ∈ internalGroups, name ∉ (splitOff controller).1.map Prod.fst := by
  unfold splitOff
  split
  · simp only [List.map_cons, List.map_nil]
    decide
  · exact ⟨List.nodup_nil, fun _ _ => List.not_mem_nil⟩

theorem carries_routeMatch (hnodup : (captures.map Prod.fst).Nodup)
    {added : List (String × String)} {name? : Option String}
    (hsplit : splitOff (selected? r captures) = (added, name?)) :
    Carries settings r captures added name? (routeMatch settings r captures localeCode) := by
  obtain ⟨hadded, hinternal⟩ := splitOff_spec (selected? r captures)
  rw [hsplit] at hadded hinternal
  have hkept : ∀ name, name ∉ added.map Prod.fst →
      ((givenParams r captures).insertAll added).get? name =
        (r.template.params.get? name).or ((boundParams captures).get? name) := by
    intro name hname
    rw [← get?_givenParams]
    exact OrderedMap.get?_insertAll_of_ne fun pair hpair heq =>
      hname (heq ▸ List.mem_map_of_mem hpair)
  have hunmoved := fun params => @controller_withParams settings r captures localeCode params
  rw [routeMatch_eq hsplit] at hunmoved ⊢
  refine ⟨rfl, ?_, ?_, ?_, beq_iff_eq, Request.hyphen_not_mem_controllerName _, ?_, ?_, hunmoved⟩
  · rw [OrderedMap.entries_insertAll hadded, givenParams,
      OrderedMap.entries_insertAll r.template.params.nodup_keys, entries_boundParams hnodup]
  · intro name value hvalue hname
    rw [hkept name hname, hvalue, Option.some_or]
  · intro name hname
    have hhidden : (boundParams captures).get? name = none := by
      rw [Option.eq_none_iff_forall_ne_some]
      exact fun value hvalue => ((get?_boundParams hnodup).mp hvalue).2 hname
    rw [← OrderedMap.contains_iff, ← OrderedMap.contains_iff, OrderedMap.contains,
      OrderedMap.contains, hkept name (hinternal name hname), hhidden, Option.or_none]
  · rintro (rfl | rfl | rfl) <;> rfl
  · rintro name rfl hempty hindex
    exact congrArg controllerName (if_pos ⟨hempty, hindex⟩)

variable {table : Table} {entities : EntityResolver} {context : RequestContext} {found : RouteMatch}

/-- A match from the routes is that of the first route that takes the path, and carries what this
route captured, with the parameters of its template written over that, and a module and its mark
over both if they are split off. -/
theorem resolve_route_carries (hbuilt : table.Built)
    (h : (resolve table entities settings context).outcome = .ok (.matched found))
    (hsource : found.source = .route) :
    ∃ handle captures added name?,
      Handle.IsFirst handle context.normalized.path (table.routes context.scope) ∧
      handle.route.captures context.normalized.path = some captures ∧
      (captures.map Prod.fst).Sublist handle.route.regex.expr.groupNames ∧
      (∀ others other?, SplitsOff handle.route.template.target captures others other? ↔
        others = added ∧ other? = name?) ∧
      Carries settings handle.route captures added name? found := by
  obtain ⟨handle, captures, hfirst, hcaptures, rfl⟩ := exists_first_of_source h hsource
  have hcompiled := (hbuilt.spec (hbuilt.get?_of_mem_routes hfirst.mem)).2
  have hnodup := Route.nodup_captures hcompiled hcaptures
  refine ⟨handle, captures, _, _, hfirst, hcaptures, Route.sublist_groupNames hcaptures, ?_,
    carries_routeMatch hnodup rfl⟩
  intro others other?
  rw [splitsOff_iff hnodup, Prod.ext_iff]
  exact and_congr eq_comm eq_comm

/-! ## A post of a blog -/

/-- A request that reaches the only route of a table is answered by it, if the route may match and
accepts the path. -/
theorem resolve_ofRoute (hreaches : ReachesRoutes (.ofRecords []) context)
    (hscope : context.scope = ⟨1, 1⟩) (hmay : r.template.mayMatch = true)
    (haccepts : r.captures context.normalized.path = some captures) :
    (resolve (Snapshot.ofRoute r).table (.ofRecords []) settings context).outcome =
      .ok (.matched (routeMatch settings r captures context.normalized.localeCode)) := by
  have htry : tryRoute settings context.normalized r =
      some (routeMatch settings r captures context.normalized.localeCode) :=
    tryRoute_eq_some.mpr ⟨hmay, captures, haccepts, rfl⟩
  rw [resolve_of_reachesRoutes hreaches, hscope, Snapshot.routes_ofRoute, scan,
    List.findSome?_cons, htry]
  rfl

/-- The pages of a blog go by numbers. Their parameters speak of a page, and of the first one. -/
def blogPage (target : String) : Template :=
  { Route.numberedPage with
    target := some target
    params := .ofList [("fc", "page"), ("_", "first")] }

theorem compile_blogPage (target : String) : ∃ regex,
    Route.compile (blogPage target) =
      .ok ⟨blogPage target, regex, [.placeholder Route.pageNumber, .literal ".html"]⟩ ∧
      regex.captures "/7.html" = some [("_", "7")] := by
  have hsegments : Rule.segments (blogPage target) =
      .ok [.placeholder Route.pageNumber, .literal ".html"] :=
    @Rule.segments_of_pieces (blogPage target) _ Route.pieces_numberedPage
  exact ⟨_, Route.compile_of_reads hsegments rfl rfl (by decide), rfl⟩

/-- Settings whose controller of the index has a hyphen. -/
def blogSettings : Settings := { Settings.initial with defaultController := "front-page" }

/-- A table with the pages of a blog as its only route, and the match of a request for one. -/
structure BlogMatch (target : String) (r : Route) (found : RouteMatch) : Prop where
  template : r.template = blogPage target
  built : (Snapshot.ofRoute r).table.Built
  resolved : (resolve (Snapshot.ofRoute r).table (.ofRecords []) blogSettings
    seventhRequest).outcome = .ok (.matched found)
  source : found.source = .route

/-- The number that is captured gives way to the parameter of the template. The page of the template
gives way to the module where one is split off, and the controller of the index takes the place of
the index, inside a module and outside. -/
theorem resolve_route_carries_blogPost :
    (∃ r found, BlogMatch "module-blog-post_list" r found ∧
      found.params.entries = [("_", "first"), ("fc", "module"), ("module", "blog")] ∧
      found.moduleDispatch = true ∧ found.controller = "post_list") ∧
    (∃ r found, BlogMatch "module-blog-index" r found ∧
      found.moduleDispatch = true ∧ found.controller = "default") ∧
    ∃ r found, BlogMatch "index" r found ∧
      found.params.entries = [("_", "first"), ("fc", "page")] ∧
      found.moduleDispatch = false ∧ found.controller = "frontpage" := by
  have hcarries : ∀ target added name?, (blogPage target).mayMatch = true →
      SplitsOff (some target) [("_", "7")] added name? →
        ∃ r found, BlogMatch target r found ∧
          Carries blogSettings r [("_", "7")] added name? found := by
    intro target added name? hmay hsplits
    obtain ⟨regex, hcompile, hcaptures⟩ := compile_blogPage target
    let r : Route := ⟨blogPage target, regex, [.placeholder Route.pageNumber, .literal ".html"]⟩
    have hbuilt : (Snapshot.ofRoute r).table.Built := @Snapshot.built_ofRoute r hcompile
    have haccepts : r.captures seventhRequest.normalized.path = some [("_", "7")] := by
      rw [normalized_seventhRequest]
      exact hcaptures
    obtain ⟨found, hresolve, hsource⟩ : ∃ found, (resolve (Snapshot.ofRoute r).table
        (.ofRecords []) blogSettings seventhRequest).outcome = .ok (.matched found) ∧
          found.source = .route :=
      ⟨_, resolve_ofRoute reachesRoutes_seventhRequest rfl hmay haccepts, rfl⟩
    obtain ⟨handle, captures, others, other?, hwinner, hcaptured, -, honly, hcarries⟩ :=
      resolve_route_carries hbuilt hresolve hsource
    obtain rfl : handle = ⟨r, none⟩ :=
      List.mem_singleton.mp (Snapshot.routes_ofRoute r ▸ hwinner.mem)
    obtain rfl : captures = [("_", "7")] := Option.some.inj (hcaptured.symm.trans haccepts)
    obtain ⟨rfl, rfl⟩ := (honly _ _).mp hsplits
    exact ⟨r, found, ⟨rfl, hbuilt, hresolve, hsource⟩, hcarries⟩
  refine ⟨?_, ?_, ?_⟩
  · obtain ⟨r, found, hmatch, hpost⟩ := hcarries "module-blog-post_list" _ _ rfl <|
      .inModule (.inl rfl) (Request.splitModule?_eq_some_iff.mp
        (show Request.splitModule? _ = some ("blog".toList, "post_list".toList) by decide))
    have hparams := hpost.params
    rw [hmatch.template] at hparams
    refine ⟨r, found, hmatch, hparams, hpost.moduleDispatch.mpr (OrderedMap.get?_of_mem ?_), ?_⟩
    · rw [hparams]
      decide
    · exact (hpost.named _ rfl (by decide) (by decide)).trans (by decide)
  · obtain ⟨r, found, hmatch, hindex⟩ := hcarries "module-blog-index" _ _ rfl <|
      .inModule (.inl rfl) (Request.splitModule?_eq_some_iff.mp
        (show Request.splitModule? _ = some ("blog".toList, "index".toList) by decide))
    have hparams := hindex.params
    rw [hmatch.template] at hparams
    have hdispatch : found.moduleDispatch = true := by
      refine hindex.moduleDispatch.mpr (OrderedMap.get?_of_mem ?_)
      rw [hparams]
      decide
    refine ⟨r, found, hmatch, hdispatch, ?_⟩
    rw [hindex.substituted (by decide), hdispatch]
    decide
  · obtain ⟨r, found, hmatch, hindex⟩ := hcarries "index" _ _ rfl <|
      .plain (.inl rfl) (Request.splitModule?_eq_none_iff.mp (by decide))
    have hparams := hindex.params
    rw [hmatch.template] at hparams
    have hdispatch : found.moduleDispatch = false := by
      rw [Bool.eq_false_iff]
      intro htrue
      have hmem := OrderedMap.mem_of_get? (hindex.moduleDispatch.mp htrue)
      rw [hparams] at hmem
      revert hmem
      decide
    refine ⟨r, found, hmatch, hparams, hdispatch, ?_⟩
    rw [hindex.substituted (by decide), hdispatch]
    decide

end Resolve

end Waymark
