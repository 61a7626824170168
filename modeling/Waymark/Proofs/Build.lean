import Waymark.Proofs.Resolve
import Waymark.Proofs.RoundTrip

/-! # What the query of a URL asks for

The query that parameters are written as is read back as these parameters. So whether it names a
controller, and whether it asks for a module, can be read off the parameters.
-/

namespace Waymark

theorem OrderedMap.find?_key {κ : Type} {ν : Type} [DecidableEq κ] (m : OrderedMap κ ν) (key : κ) :
    m.entries.find? (·.1 = key) = (m.get? key).map fun value => (key, value) := by
  rw [← List.head?_filter, filter_key]
  cases m.get? key <;> rfl

namespace Request

/-- The controller that a value of the parameter `controller` names, with its parameters. -/
def named? (value : List Char) : Option (String × Params) :=
  match legacyForm? value with
  | some (name, key, assigned) =>
      some (String.ofList name, .ofList [(String.ofList key, String.ofList assigned)])
  | none => if isControllerName value then some (String.ofList value, .empty) else none

/-- The first parameter `controller` of a query decides. -/
theorem explicitController?_eq (query : List Char) : explicitController? query =
    ((Text.Form.parse query).find? fun pair => pair.1 = "controller".toList).bind
      fun pair => named? pair.2 := by
  unfold explicitController?
  cases (Text.Form.parse query).find? fun pair => pair.1 = "controller".toList <;> rfl

theorem exists_controller_of_isSome {query : List Char}
    (h : (explicitController? query).isSome = true) :
    ∃ value, ("controller".toList, value) ∈ Text.Form.parse query := by
  obtain ⟨named, hnamed⟩ := Option.isSome_iff_exists.mp h
  rw [explicitController?_eq] at hnamed
  obtain ⟨pair, hfind, -⟩ := Option.bind_eq_some_iff.mp hnamed
  have hfound := List.find?_some hfind
  have hname : pair.1 = "controller".toList := of_decide_eq_true hfound
  exact ⟨pair.2, hname ▸ List.mem_of_find?_eq_some hfind⟩

theorem questionMark_not_mem_of_isControllerName {value : List Char}
    (h : isControllerName value = true) : '?' ∉ value := by
  intro hmem
  have hall := List.all_eq_true.mp (Bool.and_eq_true_iff.mp h).2
  exact absurd (hall '?' hmem) (by decide)

/-- A name of a controller names that controller. -/
theorem named?_of_isControllerName {value : List Char} (h : isControllerName value = true) :
    named? value = some (String.ofList value, .empty) := by
  have hlegacy : legacyForm? value = none := by
    unfold legacyForm?
    rw [Text.splitFirst_eq_none_iff.mpr (questionMark_not_mem_of_isControllerName h)]
  unfold named?
  rw [hlegacy]
  exact if_pos h

theorem asksForModule_eq (query : List Char) : asksForModule query =
    decide (("fc".toList, "module".toList) ∈ Text.Form.parse query) := by
  rw [Bool.eq_iff_iff, decide_eq_true_eq, asksForModule, List.any_eq_true]
  constructor
  · rintro ⟨⟨name, value⟩, hmem, hpair⟩
    obtain ⟨hname, hvalue⟩ := Bool.and_eq_true_iff.mp hpair
    obtain rfl : name = "fc".toList := of_decide_eq_true hname
    obtain rfl : value = "module".toList := of_decide_eq_true hvalue
    exact hmem
  · exact fun hmem => ⟨_, hmem, by decide⟩

end Request

namespace Build

theorem find?_parse_queryText (query : Params) (name : String) :
    (Text.Form.parse (queryText query.entries).toList).find? (·.1 = name.toList) =
      (query.get? name).map fun value => (name.toList, value.toList) := by
  have hname : (fun pair : String × String => decide (pair.1.toList = name.toList)) =
      fun pair => decide (pair.1 = name) :=
    funext fun pair => decide_eq_decide.mpr String.toList_inj
  rw [parse_queryText, List.find?_map]
  change (query.entries.find? fun pair => decide (pair.1.toList = name.toList)).map _ = _
  rw [hname, OrderedMap.find?_key]
  cases query.get? name <;> rfl

theorem explicitController?_entries (query : Params) :
    Request.explicitController? (queryText query.entries).toList =
      (query.get? "controller").bind fun value => Request.named? value.toList := by
  rw [Request.explicitController?_eq, find?_parse_queryText]
  cases query.get? "controller" <;> rfl

theorem asksForModule_entries (query : Params) :
    Request.asksForModule (queryText query.entries).toList =
      (query.get? "fc" == some "module") := by
  rw [Request.asksForModule_eq, parse_queryText, Bool.eq_iff_iff, decide_eq_true_eq, beq_iff_eq]
  constructor
  · intro hmem
    obtain ⟨⟨name, value⟩, hentry, hpair⟩ := List.mem_map.mp hmem
    obtain ⟨hname, hvalue⟩ := Prod.mk.inj hpair
    obtain rfl : name = "fc" := String.toList_inj.mp hname
    obtain rfl : value = "module" := String.toList_inj.mp hvalue
    exact OrderedMap.get?_of_mem hentry
  · exact fun hget => List.mem_map.mpr ⟨_, OrderedMap.mem_of_get? hget, rfl⟩

/-- The match that the parameters of a query ask for. -/
def queryMatch? (query : Params) : Option RouteMatch :=
  ((query.get? "controller").bind fun value => Request.named? value.toList).map fun named =>
    { routeId := named.1
      controller := Request.controllerName named.1
      params := named.2
      moduleDispatch := query.get? "fc" == some "module"
      localeCode := none
      source := .explicit }

/-- What a URL in query form asks for is what its parameters say. -/
theorem explicitMatch?_query (query : Params) :
    Resolve.explicitMatch? (withQuery frontScript (queryText query.entries)) =
      queryMatch? query := by
  unfold queryMatch?
  rw [← explicitController?_entries, ← asksForModule_entries]
  unfold Resolve.explicitMatch? withQuery
  split
  next hempty =>
    -- no parameter names a controller then
    rw [hempty]
    rfl
  next =>
    rw [toList_withQuery, Request.rawQuery?_append (by decide), Option.bind_some]

/-- A query that names a controller asks for that controller. -/
theorem queryMatch?_of_name {query : Params} {name : String}
    (hget : query.get? "controller" = some name)
    (hvalid : Request.isControllerName name.toList = true) :
    queryMatch? query = some ⟨name, Request.controllerName name, .empty,
      query.get? "fc" == some "module", none, .explicit⟩ := by
  unfold queryMatch?
  rw [hget, Option.bind_some, Request.named?_of_isControllerName hvalid, String.ofList_toList]
  rfl

theorem moduleDispatch_of_queryMatch? {query : Params} {found : RouteMatch}
    (h : queryMatch? query = some found) :
    found.moduleDispatch = (query.get? "fc" == some "module") := by
  obtain ⟨named, -, rfl⟩ := Option.map_eq_some_iff.mp h
  rfl

end Build

namespace Snapshot

variable {s : Snapshot} {scope : Scope} {routeId : String} {handle : Handle} {params : Params}

/-- The URL of a route that the table knows and that is no entity's. -/
def urlOf (s : Snapshot) (scope : Scope) (r : Route) (params : Params) (templated : Bool) :
    String :=
  if templated then Build.templatedUrl r params
  else Build.queryUrl r scope params s.settings.multiLocale

/-- Building the URL of such a route fails only for want of a required keyword. -/
theorem outcome_build (hget : s.table.get? scope routeId = some handle)
    (hcanonical : EntityKind.ofRouteId? routeId = none) (templated : Bool) :
    (s.build scope routeId params templated "").outcome =
      match Build.missingKeyword? handle.route params with
      | some keyword => .error (.missingParameter handle.route.routeId keyword)
      | none => .ok (s.urlOf scope handle.route params templated) := by
  unfold build buildUrl
  rw [hget]
  dsimp only
  unfold Build.knownUrl
  rw [hcanonical, ite_self]
  dsimp only
  cases Build.missingKeyword? handle.route params with
  | some keyword => rfl
  | none => cases templated <;> exact congrArg Except.ok String.append_empty

theorem eq_urlOf_of_build {templated : Bool} {url : String}
    (hget : s.table.get? scope routeId = some handle)
    (hcanonical : EntityKind.ofRouteId? routeId = none)
    (h : (s.build scope routeId params templated "").outcome = .ok url) :
    url = s.urlOf scope handle.route params templated := by
  rw [outcome_build hget hcanonical] at h
  split at h
  next => cases h
  next =>
    cases h
    rfl

/-- A snapshot with one route builds its URLs if no required keyword is missing. -/
theorem build_ofRoute {r : Route} (hcanonical : EntityKind.ofRouteId? r.routeId = none)
    (hsupplied : Build.missingKeyword? r params = none) (templated : Bool) :
    ((ofRoute r).build ⟨1, 1⟩ r.routeId params templated "").outcome =
      .ok ((ofRoute r).urlOf ⟨1, 1⟩ r params templated) := by
  rw [outcome_build (get?_ofRoute r) hcanonical]
  dsimp only
  rw [hsupplied]

end Snapshot

end Waymark
