import Waymark.Proofs.EntityUrl
import Waymark.Proofs.Outcome
import Waymark.Service

/-! # When a URL is refused

An id that the table does not know always has a URL. The friendly URL of an entity is the entity
resolver's to give or to deny, and it is asked for once, as soon as there is an id to ask about.
Every other URL is written without asking anybody, and all it can lack are values: the first
placeholder without the value that it requires is reported. The anchor has no part in this.
-/

namespace Waymark

open Rule
open Service (callsOf)

/-! ## Entities -/

/-- Why the entity resolver gives no URL for an entity: it is out, or it finds none. -/
inductive EntityResolver.Denies (entities : EntityResolver) (id : String) (kind : EntityKind)
    (scope : Scope) : RoutingError → Prop
  | outage {cause : CollaboratorError}
      (h : entities.reverse id kind scope .canonical = .error cause) :
      Denies entities id kind scope (.collaborator cause)
  | unknown (h : entities.reverse id kind scope .canonical = .ok none) :
      Denies entities id kind scope (.unknownEntity kind.name id)

namespace Build

variable {table : Table} {entities : EntityResolver} {scope : Scope} {routeId : String}
  {params : Params} {kind : EntityKind}

/-- The URL of an entity is left to the entity resolver. -/
structure LeftToResolver (entities : EntityResolver) (scope : Scope) (kind : EntityKind)
    (routeId : String) (params : Params) (url : Traced BuildStep RoutingError String) : Prop where
  /-- A parameter is missing exactly if there is no id, -/
  missing : url.outcome = .error (.missingParameter routeId "id") ↔ "id" ∉ params.keys
  /-- and then nobody is asked. -/
  silent : "id" ∉ params.keys → callsOf url.trace = []
  /-- An id is asked for once. -/
  asks : ∀ id, params.get? "id" = some id →
    callsOf url.trace = [.reverse id kind scope .canonical]
  /-- A URL is refused exactly if the answer denies it. -/
  fails : ∀ id, params.get? "id" = some id →
    ∀ cause, url.outcome = .error cause ↔ entities.Denies id kind scope cause

theorem canonicalUrl_of_id {id : String} (h : params.get? "id" = some id) :
    callsOf (canonicalUrl entities scope routeId kind params).trace =
        [.reverse id kind scope .canonical] ∧
      ∀ cause, (canonicalUrl entities scope routeId kind params).outcome = .error cause ↔
        entities.Denies id kind scope cause := by
  unfold canonicalUrl
  rw [h]
  refine ⟨rfl, fun cause => ?_⟩
  dsimp only
  constructor
  · intro hfails
    split at hfails
    next outage hanswer =>
      cases hfails
      exact .outage hanswer
    next hanswer =>
      cases hfails
      exact .unknown hanswer
    next => cases hfails
  · intro hdenies
    cases hdenies with
    | outage hanswer => rw [hanswer]
    | unknown hanswer => rw [hanswer]

theorem leftToResolver_canonicalUrl : LeftToResolver entities scope kind routeId params
    (canonicalUrl entities scope routeId kind params) := by
  by_cases hid : "id" ∈ params.keys
  · obtain ⟨id, hget⟩ := OrderedMap.mem_keys_iff.mp hid
    obtain ⟨hasks, hfails⟩ := @canonicalUrl_of_id entities scope routeId _ kind id hget
    refine ⟨?_, fun hnot => absurd hid hnot, ?_, ?_⟩
    · -- no answer of the resolver says that a parameter is missing
      refine ⟨fun hmissing => ?_, fun hnot => absurd hid hnot⟩
      cases (hfails _).mp hmissing
    · intro other hother
      cases hget.symm.trans hother
      exact hasks
    · intro other hother
      cases hget.symm.trans hother
      exact hfails
  · have hnone : params.get? "id" = none := OrderedMap.get?_eq_none_iff.mpr hid
    have hurl : canonicalUrl entities scope routeId kind params =
        .fail (.missingParameter routeId "id") := by
      unfold canonicalUrl
      rw [hnone]
    rw [hurl]
    refine ⟨iff_of_true rfl hid, fun _ => rfl, ?_, ?_⟩
    · intro id hget
      cases hnone.symm.trans hget
    · intro id hget
      cases hnone.symm.trans hget

/-! ## Other routes -/

/-- A URL of a route is refused only for want of a value, and nobody is asked about it. -/
structure NeedsValues (r : Route) (params : Params) (url : Traced BuildStep RoutingError String) :
    Prop where
  /-- It is refused exactly if some placeholder of the rule misses its value. -/
  fails : (∃ cause, url.outcome = .error cause) ↔ ∃ p ∈ r.placeholders, p.Missing params
  /-- The first such placeholder is reported. -/
  first : ∀ cause, url.outcome = .error cause ↔
    ∃ p : Placeholder, p.IsFirstMissing params r.placeholders ∧
      cause = .missingParameter r.routeId p.keyword
  silent : callsOf url.trace = []

variable {r : Route} {options : BuildOptions}

theorem needsValues_of_missing {keyword : String} (h : missingKeyword? r params = some keyword) :
    NeedsValues r params (.fail (.missingParameter r.routeId keyword)) := by
  obtain ⟨p, hfirst, rfl⟩ := missingKeyword?_eq_some.mp h
  refine ⟨?_, ?_, rfl⟩
  · obtain ⟨hmissing, before, after, hplaceholders, -⟩ := hfirst
    exact iff_of_true ⟨_, rfl⟩ ⟨p, by simp [hplaceholders], hmissing⟩
  · intro cause
    constructor
    · intro hcause
      cases hcause
      exact ⟨p, hfirst, rfl⟩
    · rintro ⟨other, hother, rfl⟩
      -- only one placeholder is the first
      rw [missingKeyword?_eq_some.mpr ⟨other, hother, rfl⟩] at h
      rw [Option.some.inj h]
      rfl

theorem needsValues_of_supplied (h : missingKeyword? r params = none) (mode : BuildMode)
    (url : String) : NeedsValues r params ⟨[.mode mode], .ok url⟩ := by
  have hsupplied := missingKeyword?_eq_none_iff.mp h
  refine ⟨iff_of_false nofun ?_, fun cause => iff_of_false nofun ?_, rfl⟩
  · rintro ⟨p, hp, hmissing⟩
    exact hsupplied p hp hmissing
  · rintro ⟨p, ⟨hmissing, before, after, hplaceholders, -⟩, -⟩
    exact hsupplied p (by simp [hplaceholders]) hmissing

/-- The URL of a route that is not left to the entity resolver. -/
theorem needsValues_knownUrl
    (h : options.templated = true → EntityKind.ofRouteId? routeId = none) :
    NeedsValues r params (knownUrl entities scope routeId r params options) := by
  unfold knownUrl
  rw [ite_eq_right_iff.mpr h]
  dsimp only
  split
  next keyword hmissing => exact needsValues_of_missing hmissing
  next hsupplied =>
    split
    · exact needsValues_of_supplied hsupplied _ _
    · exact needsValues_of_supplied hsupplied _ _

/-- The friendly URL of an entity. -/
theorem leftToResolver_knownUrl (hkind : EntityKind.ofRouteId? routeId = some kind)
    (htemplated : options.templated = true) :
    LeftToResolver entities scope kind routeId params
      (knownUrl entities scope routeId r params options) := by
  unfold knownUrl
  rw [if_pos htemplated, hkind]
  exact leftToResolver_canonicalUrl

/-! ## What the anchor changes -/

/-- A URL with an anchor behind it. -/
def anchored (url : Traced BuildStep RoutingError String) (anchor : String) :
    Traced BuildStep RoutingError String :=
  { url with outcome := url.outcome.map (· ++ anchor) }

variable {url : Traced BuildStep RoutingError String}

theorem LeftToResolver.anchored (h : LeftToResolver entities scope kind routeId params url)
    (anchor : String) :
    LeftToResolver entities scope kind routeId params (anchored url anchor) := by
  have herror : ∀ cause, (Build.anchored url anchor).outcome = .error cause ↔
      url.outcome = .error cause := fun cause => map_eq_error
  refine ⟨(herror _).trans h.missing, h.silent, h.asks, fun id hid cause => ?_⟩
  exact (herror cause).trans (h.fails id hid cause)

theorem NeedsValues.anchored (h : NeedsValues r params url) (anchor : String) :
    NeedsValues r params (anchored url anchor) := by
  have herror : ∀ cause, (Build.anchored url anchor).outcome = .error cause ↔
      url.outcome = .error cause := fun cause => map_eq_error
  refine ⟨?_, fun cause => (herror cause).trans (h.first cause), h.silent⟩
  simp only [herror]
  exact h.fails

theorem anchored_anchored (url : Traced BuildStep RoutingError String) (front back : String) :
    anchored (anchored url front) back = anchored url (front ++ back) := by
  unfold anchored
  cases url.outcome with
  | error cause => rfl
  | ok text => simp [Except.map, String.append_assoc]

/-! ## All URLs -/

theorem buildUrl_of_unknown (h : table.get? scope routeId = none) :
    buildUrl table entities scope routeId params options =
      ⟨[.mode .fallback],
        .ok (fallbackUrl routeId params options.templated ++ options.anchor)⟩ := by
  unfold buildUrl
  rw [h]
  rfl

theorem buildUrl_of_known {handle : Handle} (h : table.get? scope routeId = some handle) :
    buildUrl table entities scope routeId params options =
      anchored (knownUrl entities scope routeId handle.route params options) options.anchor := by
  unfold buildUrl
  rw [h]
  rfl

theorem buildUrl_anchored (table : Table) (entities : EntityResolver) (scope : Scope)
    (routeId : String) (params : Params) (options : BuildOptions) (anchor : String) :
    buildUrl table entities scope routeId params { options with anchor } =
      anchored (buildUrl table entities scope routeId params { options with anchor := "" })
        anchor := by
  cases hget : table.get? scope routeId with
  | none =>
      rw [buildUrl_of_unknown hget, buildUrl_of_unknown hget, String.append_empty]
      rfl
  | some handle =>
      rw [buildUrl_of_known hget, buildUrl_of_known hget, anchored_anchored, String.empty_append]
      rfl

/-- When building a URL fails, and what is asked on the way. An id that the table does not know
has a URL, and nobody is asked for it. The friendly URL of an entity is left to the entity
resolver. Every other URL needs the values that the rule of its route requires. An anchor is put
behind the URL that there is without it, and changes nothing else. -/
theorem buildUrl_fails (table : Table) (entities : EntityResolver) (scope : Scope)
    (routeId : String) (params : Params) (options : BuildOptions) :
    (table.get? scope routeId = none →
      (∃ url, (buildUrl table entities scope routeId params options).outcome = .ok url) ∧
      callsOf (buildUrl table entities scope routeId params options).trace = []) ∧
    (∀ handle, table.get? scope routeId = some handle →
      (∀ kind, EntityKind.ofRouteId? routeId = some kind → options.templated = true →
        LeftToResolver entities scope kind routeId params
          (buildUrl table entities scope routeId params options)) ∧
      ((options.templated = true → EntityKind.ofRouteId? routeId = none) →
        NeedsValues handle.route params
          (buildUrl table entities scope routeId params options))) ∧
    ∀ anchor, buildUrl table entities scope routeId params { options with anchor } =
      anchored (buildUrl table entities scope routeId params { options with anchor := "" })
        anchor := by
  refine ⟨?_, ?_, buildUrl_anchored table entities scope routeId params options⟩
  · intro hget
    rw [buildUrl_of_unknown hget]
    exact ⟨⟨_, rfl⟩, rfl⟩
  · intro handle hget
    rw [buildUrl_of_known hget]
    refine ⟨fun kind hkind htemplated => ?_, fun hplain => ?_⟩
    · exact (leftToResolver_knownUrl hkind htemplated).anchored _
    · exact (needsValues_knownUrl hplain).anchored _

/-- A table with the family of products and that of filtered categories. -/
def filterTable (product layered : Route) : Table :=
  (Table.empty.insert ⟨1, 1⟩ ⟨product, none⟩).insert ⟨1, 1⟩ ⟨layered, none⟩

/-- A friendly URL with an anchor. -/
def toReviews : BuildOptions := ⟨true, false, "#reviews"⟩

/-- A mug has no URL while the store is down, nor one in an empty store, and a category no
filtered one without a filter. A page that no table knows has one. -/
theorem buildUrl_fails_filters : ∃ table : Table,
    (buildUrl table Resolve.downStore ⟨1, 1⟩ "product_rule" (.ofList [("id", "7")])
      toReviews).outcome = .error (.collaborator Resolve.storeDown) ∧
    callsOf (buildUrl table Resolve.downStore ⟨1, 1⟩ "product_rule" (.ofList [("id", "7")])
      toReviews).trace = [.reverse "7" .product ⟨1, 1⟩ .canonical] ∧
    (buildUrl table (.ofRecords []) ⟨1, 1⟩ "product_rule" (.ofList [("id", "7")])
      toReviews).outcome = .error (.unknownEntity "product" "7") ∧
    (buildUrl table Resolve.downStore ⟨1, 1⟩ "layered_rule" (.ofList [("id", "5"), ("page", "2")])
      toReviews).outcome = .error (.missingParameter "layered_rule" "selected_filters") ∧
    ∃ url, (buildUrl table Resolve.downStore ⟨1, 1⟩ "cart" .empty toReviews).outcome =
      .ok url := by
  obtain ⟨⟨template, regex, segments⟩, hproduct⟩ :=
    Families.compiles_builtIn (t := Families.product) (by simp [Families.builtIn])
  obtain rfl : template = Families.product := (Route.compile_eq_ok hproduct).1
  obtain ⟨filters, -⟩ := Families.compile_layered
  let table := filterTable ⟨Families.product, regex, segments⟩ ⟨Families.layered, filters,
    Families.entitySegments [] "id_category" "-" ++ [.placeholder Families.filtersPlaceholder]⟩
  have hmug := fun entities : EntityResolver =>
    ((buildUrl_fails table entities ⟨1, 1⟩ "product_rule" (.ofList [("id", "7")]) toReviews).2.1
      _ rfl).1 .product rfl rfl
  have hlayered := ((buildUrl_fails table Resolve.downStore ⟨1, 1⟩ "layered_rule"
    (.ofList [("id", "5"), ("page", "2")]) toReviews).2.1 _ rfl).2 fun _ => rfl
  have hcart := (buildUrl_fails table Resolve.downStore ⟨1, 1⟩ "cart" .empty toReviews).1 rfl
  refine ⟨table, ?_, ?_, ?_, ?_, hcart.1⟩
  · exact ((hmug Resolve.downStore).fails "7" rfl _).mpr (.outage rfl)
  · exact (hmug Resolve.downStore).asks "7" rfl
  · exact ((hmug (.ofRecords [])).fails "7" rfl _).mpr (.unknown rfl)
  · have hfirst : Families.filtersPlaceholder.IsFirstMissing (.ofList [("id", "5"), ("page", "2")])
        [Families.idPlaceholder "id_category", Families.rewritePlaceholder,
          Families.filtersPlaceholder] :=
      ⟨by decide, [Families.idPlaceholder "id_category", Families.rewritePlaceholder], [], rfl,
        by decide⟩
    exact (hlayered.first _).mpr ⟨Families.filtersPlaceholder, hfirst, rfl⟩

end Build

end Waymark
