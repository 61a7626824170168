import Waymark.Proofs.Dispatch

/-! # Reading back URLs in query form

A URL in query form is written from one ordered map of parameters, into which several sources
write in turn. Whatever characters they use, the query is read back as the entries of this map, in
order. So the resolver finds the controller that was written last, no matter under which table,
switches and mount point it is asked.
-/

namespace Waymark

namespace Build

/-! ## The parameters of a query -/

variable {t : Template} {scope : Scope} {params : Params} {multiLocale : Bool}

/-- What is written to the query of a route, in turn: the parameters that are no keywords, those
that every match carries, the values of keywords under the parameters they are bound to, the
target, and the locale. -/
def queryWrites (t : Template) (scope : Scope) (params : Params) (multiLocale : Bool) :
    List (String × String) :=
  params.entries.filter (fun pair => pair.1 ∉ t.keywords.keys) ++
  t.params.entries ++
  t.keywords.entries.filterMap (fun keyword =>
    keyword.2.param.bind fun name => (params.get? keyword.1).map fun value => (name, value)) ++
  (t.target.filter (· ≠ "")).toList.map (fun target => ("controller", target)) ++
  if multiLocale then [("id_lang", toString scope.locale.toNat)] else []

theorem entries_leftovers : (leftovers t params).entries =
    params.entries.filter fun pair => pair.1 ∉ t.keywords.keys := by
  unfold leftovers OrderedMap.filter
  dsimp only
  apply List.filter_congr
  intro pair _
  rw [Bool.eq_iff_iff, Bool.not_eq_true', decide_eq_true_eq, ← OrderedMap.contains_iff,
    Bool.not_eq_true]

theorem boundValues_eq : boundValues t params = t.keywords.entries.filterMap fun keyword =>
    keyword.2.param.bind fun name => (params.get? keyword.1).map fun value => (name, value) := by
  unfold boundValues
  apply List.filterMap_congr
  intro keyword _
  cases keyword.2.param with
  | none => rfl
  | some name =>
      cases params.get? keyword.1 with
      | none => rfl
      | some value => rfl

/-- The parameters of a route's query are what is written to it, later writes over earlier ones. -/
theorem queryParams_eq :
    queryParams t scope params multiLocale = .ofList (queryWrites t scope params multiLocale) := by
  unfold queryParams queryWrites
  rw [← entries_leftovers, ← boundValues_eq, OrderedMap.ofList_append, OrderedMap.ofList_append,
    OrderedMap.ofList_append, OrderedMap.ofList_append, OrderedMap.ofList_entries,
    OrderedMap.insertAll_append]
  cases t.target with
  | none => cases multiLocale <;> rfl
  | some target =>
      by_cases hempty : target = ""
      · cases multiLocale <;> simp [hempty, Option.filter, OrderedMap.insertAll]
      · cases multiLocale <;> simp [hempty, Option.filter, OrderedMap.insertAll]

/-! ## What is read back -/

/-- The match of a query that names a controller: nothing else of the query gets into it but
whether it asks for a module. -/
def namedMatch (name : String) (query : Params) : RouteMatch where
  routeId := name
  controller := Request.controllerName name
  params := .empty
  moduleDispatch := query.get? "fc" == some "module"
  localeCode := none
  source := .explicit

/-- A URL is read back as the parameters that it was written from. -/
structure ReadsBack (url : String) (query : Params) : Prop where
  /-- Without parameters there is no query. -/
  absent : query.entries = [] → Request.rawQuery? url.toList = none
  /-- Otherwise the query holds the parameters in order. -/
  parsed : query.entries ≠ [] → (Request.rawQuery? url.toList).map Text.Form.parse =
    some (query.entries.map fun pair => (pair.1.toList, pair.2.toList))
  /-- A parameter that names a controller is taken at its word, whoever is asked. -/
  resolved : ∀ name, query.get? "controller" = some name →
    Request.isControllerName name.toList = true →
    ∀ table entities settings context, context.path = url →
      resolve table entities settings context = .ok (.matched (namedMatch name query))

theorem queryText_eq_empty {pairs : List (String × String)} :
    queryText pairs = "" ↔ pairs = [] := by
  constructor
  · intro hempty
    have hparse := parse_queryText pairs
    rw [hempty] at hparse
    exact List.map_eq_nil_iff.mp hparse.symm
  · rintro rfl
    rfl

/-- What is written behind the front script is read back. -/
theorem readsBack_frontScript (query : Params) :
    ReadsBack (withQuery frontScript (queryText query.entries)) query := by
  refine ⟨?_, ?_, ?_⟩
  · intro hempty
    rw [withQuery, if_pos (queryText_eq_empty.mpr hempty)]
    exact Request.rawQuery?_of_not_mem (by decide)
  · intro hne
    rw [withQuery, if_neg (queryText_eq_empty.not.mpr hne), toList_withQuery,
      Request.rawQuery?_append (by decide), Option.map_some, parse_queryText]
  · rintro name hname hvalid table entities settings context hpath
    have hmatch : Resolve.explicitMatch? context.path = some (namedMatch name query) := by
      rw [hpath, explicitMatch?_query]
      exact queryMatch?_of_name hname hvalid
    unfold resolve
    rw [hmatch]

theorem outcome_knownUrl_query {entities : EntityResolver} {routeId : String} {r : Route}
    {anchor url : String}
    (h : (knownUrl entities scope routeId r params ⟨false, multiLocale, anchor⟩).outcome =
      .ok url) : url = queryUrl r scope params multiLocale := by
  unfold knownUrl at h
  simp only [Bool.false_eq_true, if_false] at h
  split at h
  next => cases h
  next =>
    cases h
    rfl

/-- The URL of an id that a table does not know, if it is not that of the index. -/
theorem fallbackUrl_of_named {routeId : String} (hblank : trimBlanks routeId ≠ "")
    (hindex : trimBlanks routeId ≠ Families.indexId) (templated : Bool) :
    fallbackUrl routeId params templated = withQuery frontScript (queryText
      (OrderedMap.ofList (("controller", trimBlanks routeId) :: params.entries)).entries) := by
  unfold fallbackUrl
  exact if_neg (not_or.mpr ⟨hblank, hindex⟩)

/-- URLs in query form are read back. Of a route that the table knows, a URL that is built in
query form holds what is written to its query; of an id that the table does not know, a URL is
always built, in either form, and holds the id as the controller unless the parameters say
otherwise. -/
theorem buildUrl_readsBack (table : Table) (entities : EntityResolver) (scope : Scope)
    (routeId : String) (params : Params) :
    (∀ handle, table.get? scope routeId = some handle → ∀ multiLocale url,
      (buildUrl table entities scope routeId params ⟨false, multiLocale, ""⟩).outcome = .ok url →
      ReadsBack url (.ofList (queryWrites handle.route.template scope params multiLocale))) ∧
    (table.get? scope routeId = none → trimBlanks routeId ≠ "" →
      trimBlanks routeId ≠ Families.indexId → ∀ templated multiLocale, ∃ url,
      (buildUrl table entities scope routeId params ⟨templated, multiLocale, ""⟩).outcome =
        .ok url ∧
      ReadsBack url (.ofList (("controller", trimBlanks routeId) :: params.entries))) := by
  constructor
  · intro handle hget multiLocale url hbuild
    unfold buildUrl at hbuild
    rw [hget] at hbuild
    obtain ⟨bare, hknown, rfl⟩ := map_eq_ok.mp hbuild
    rw [String.append_empty, outcome_knownUrl_query hknown, ← queryParams_eq]
    exact readsBack_frontScript _
  · intro hget hblank hindex templated multiLocale
    refine ⟨fallbackUrl routeId params templated, ?_, ?_⟩
    · unfold buildUrl
      rw [hget]
      exact congrArg Except.ok String.append_empty
    · rw [fallbackUrl_of_named hblank hindex]
      exact readsBack_frontScript _

/-- Parameters that a query has to write with care, one of them in the place of the controller. -/
def carefulParams : Params := .ofList
  [("kind", "cart"), ("größe", "a&b=c + 5%"), ("controller", "x"), ("", "?"), ("fc", "module")]

/-- What the query of the sale is read back as. -/
def carefulQuery : Params := .ofList
  [("größe", "a&b=c + 5%"), ("controller", "summer-sale"), ("", "?"), ("fc", "module"),
    ("id_lang", "1")]

theorem buildUrl_readsBack_sale :
    namedMatch "summer-sale" carefulQuery =
      ⟨"summer-sale", "summersale", .empty, true, none, .explicit⟩ ∧
    ∃ (r : Route) (url other : String), r.template = Snapshot.sale (some "summer-sale") ∧
      (buildUrl (Snapshot.ofRoute r).table (.ofRecords []) ⟨1, 1⟩ "sale" carefulParams
        ⟨false, true, ""⟩).outcome = .ok url ∧ ReadsBack url carefulQuery ∧
      (buildUrl (Snapshot.ofRoute r).table (.ofRecords []) ⟨1, 1⟩ " stores " .empty
        ⟨true, false, ""⟩).outcome = .ok other ∧
      ReadsBack other (.ofList [("controller", "stores")]) := by
  refine ⟨by decide, ?_⟩
  obtain ⟨regex, hcompile, -⟩ := Snapshot.compile_sale (some "summer-sale")
  let r : Route := ⟨Snapshot.sale (some "summer-sale"), regex, [.literal "sale"]⟩
  have hget : (Snapshot.ofRoute r).table.get? ⟨1, 1⟩ "sale" = some ⟨r, none⟩ :=
    Snapshot.get?_ofRoute r
  obtain ⟨hknown, -⟩ :=
    buildUrl_readsBack (Snapshot.ofRoute r).table (.ofRecords []) ⟨1, 1⟩ "sale" carefulParams
  obtain ⟨-, hunknown⟩ :=
    buildUrl_readsBack (Snapshot.ofRoute r).table (.ofRecords []) ⟨1, 1⟩ " stores " .empty
  have hblanks : trimBlanks " stores " = "stores" := by decide +kernel
  rw [hblanks] at hunknown
  have hwrites : (OrderedMap.ofList (queryWrites (Snapshot.sale (some "summer-sale")) ⟨1, 1⟩
      carefulParams true) : Params) = carefulQuery := by decide +kernel
  have hbuild : (buildUrl (Snapshot.ofRoute r).table (.ofRecords []) ⟨1, 1⟩ "sale" carefulParams
      ⟨false, true, ""⟩).outcome = .ok (queryUrl r ⟨1, 1⟩ carefulParams true ++ "") := rfl
  have hread := hknown _ hget true _ hbuild
  rw [hwrites] at hread
  obtain ⟨other, hother, hotherRead⟩ := hunknown rfl (by decide) (by decide) true false
  exact ⟨r, _, other, rfl, hbuild, hread, hother, hotherRead⟩

end Build

end Waymark
