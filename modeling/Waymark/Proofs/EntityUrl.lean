import Waymark.Proofs.Families
import Waymark.Proofs.RoundTrip

/-! # The URLs of entities

A store with a fixed list takes the URL of an entity from the first record of that entity, and
finds an entity by the first record with a path. If no two records of a scope have the same path,
both ways lead to the same record. So the URL of an entity leads back to the entity; the routes of
its scope are not tried.
-/

namespace Waymark

/-! ## Paths without slashes at their ends -/

namespace Text

variable {c : Char} {text : List Char}

theorem dropTrailing_eq_self (h : text.getLast? ≠ some c) : dropTrailing c text = text := by
  unfold dropTrailing
  cases hreverse : text.reverse with
  | nil => rw [List.reverse_eq_nil_iff.mp hreverse, List.dropWhile_nil, List.reverse_nil]
  | cons last front =>
      have hne : last ≠ c := by
        rintro rfl
        rw [List.getLast?_eq_head?_reverse, hreverse] at h
        exact h rfl
      rw [List.dropWhile_cons_of_neg (by simpa using hne), ← hreverse, List.reverse_reverse]

theorem getLast?_trimBoth (c : Char) (text : List Char) : (trimBoth c text).getLast? ≠ some c :=
  Request.getLast?_dropTrailing c _

theorem head?_trimBoth (c : Char) (text : List Char) : (trimBoth c text).head? ≠ some c := by
  have hprefix : trimBoth c text <+: text.dropWhile (· == c) :=
    List.reverse_suffix.mp (by
      rw [trimBoth, dropTrailing, List.reverse_reverse]
      exact List.dropWhile_suffix _)
  intro hhead
  obtain ⟨rest, hrest⟩ := hprefix
  have hnot := List.head?_dropWhile_not (· == c) text
  rw [← hrest, List.head?_append, hhead] at hnot
  simp at hnot

theorem trimBoth_trimBoth (c : Char) (text : List Char) :
    trimBoth c (trimBoth c text) = trimBoth c text := by
  have hfront : (trimBoth c text).dropWhile (· == c) = trimBoth c text := by
    have hhead := head?_trimBoth c text
    cases htrim : trimBoth c text with
    | nil => rfl
    | cons first rest =>
        have hne : first ≠ c := by
          rintro rfl
          rw [htrim] at hhead
          exact hhead rfl
        rw [List.dropWhile_cons_of_neg (by simpa using hne)]
  rw [trimBoth, hfront, dropTrailing_eq_self (getLast?_trimBoth c text)]

end Text

namespace EntityRecord

theorem trimSlashes_trimSlashes (path : String) :
    trimSlashes (trimSlashes path) = trimSlashes path := by
  rw [trimSlashes, trimSlashes, String.toList_ofList, Text.trimBoth_trimBoth]

theorem relative_trimSlashes {path : String} (h : Request.IsPath (trimSlashes path)) :
    Request.Relative (trimSlashes path).toList := by
  refine h.relative ?_ ?_
  · rw [trimSlashes, String.toList_ofList]
    exact Text.head?_trimBoth '/' _
  · rw [trimSlashes, String.toList_ofList]
    exact Text.getLast?_trimBoth '/' _

/-- No two records of a scope have the same path, up to slashes at its ends. -/
def Distinct (records : List EntityRecord) : Prop :=
  ∀ r ∈ records, ∀ other ∈ records, r.scope = other.scope →
    trimSlashes r.path = trimSlashes other.path → r = other

instance (records : List EntityRecord) : Decidable (Distinct records) :=
  inferInstanceAs (Decidable (∀ r ∈ records, ∀ other ∈ records, _ → _ → _))

end EntityRecord

/-! ## The record of an entity -/

namespace EntityResolver

open EntityRecord

variable {records : List EntityRecord}

/-- The entity of a record is found at its path. -/
theorem lookup_ofRecords {r : EntityRecord} (hdistinct : Distinct records) (hmem : r ∈ records) :
    (ofRecords records).lookup (trimSlashes r.path) r.scope = .ok (some ⟨r.kind, r.id⟩) := by
  have hisAt : r.isAt (trimSlashes r.path) r.scope = true := by
    simp [isAt, trimSlashes_trimSlashes]
  have hsome : (records.find? (·.isAt (trimSlashes r.path) r.scope)).isSome = true :=
    List.find?_isSome.mpr ⟨r, hmem, hisAt⟩
  obtain ⟨other, hother⟩ := Option.isSome_iff_exists.mp hsome
  -- the first record at the path is the only one
  have hat := List.find?_some hother
  simp only [isAt, trimSlashes_trimSlashes, Bool.and_eq_true, decide_eq_true_eq] at hat
  obtain rfl := hdistinct other (List.mem_of_find?_eq_some hother) r hmem hat.1 hat.2
  unfold ofRecords
  dsimp only
  rw [hother]
  rfl

/-- A URL that is given for an entity is the path of a record of the entity. -/
theorem reverse_ofRecords_eq_some {id url : String} {kind : EntityKind} {scope : Scope}
    {variant : UrlVariant} (h : (ofRecords records).reverse id kind scope variant =
      .ok (some url)) :
    ∃ r ∈ records, idOfText? id = some r.id ∧ r.kind = kind ∧ r.scope = scope ∧
      url = trimSlashes r.path := by
  have hfound : (idOfText? id).bind (fun number =>
      (records.find? (·.isUrlOf number kind scope variant)).map fun r => trimSlashes r.path) =
        some url :=
    Except.ok.inj h
  obtain ⟨number, hnumber, hrecord⟩ := Option.bind_eq_some_iff.mp hfound
  obtain ⟨r, hfind, rfl⟩ := Option.map_eq_some_iff.mp hrecord
  have hisUrl := List.find?_some hfind
  simp only [isUrlOf, Bool.and_eq_true, decide_eq_true_eq] at hisUrl
  obtain ⟨⟨⟨hscope, hkind⟩, hid⟩, -⟩ := hisUrl
  exact ⟨r, List.mem_of_find?_eq_some hfind, hid ▸ hnumber, hkind, hscope, rfl⟩

end EntityResolver

/-! ## There and back -/

namespace EntityKind

variable {kind : EntityKind} {routeId : String}

theorem ofRouteId?_eq_some : ofRouteId? routeId = some kind ↔ kind.routeId? = some routeId := by
  constructor
  · intro h
    unfold ofRouteId? at h
    have hfound := List.find?_some h
    exact of_decide_eq_true hfound
  · intro h
    cases kind <;> cases h <;> rfl

/-- A kind that owns a route family has a controller, whose name has no hyphens. -/
theorem controller?_of_routeId? (h : kind.routeId? = some routeId) :
    ∃ controller, kind.controller? = some controller ∧
      Request.controllerName controller = controller := by
  cases kind <;> cases h <;> exact ⟨_, rfl, by decide⟩

end EntityKind

/-- An entity at a relative path is shown by the controller of its kind. -/
theorem Resolve.lookupEntity_eq_some {entities : EntityResolver} {scope : Scope}
    {path routeId controller : String} {hit : EntityRef} (hpath : Request.Relative path.toList)
    (hlookup : entities.lookup path scope = .ok (some hit))
    (hroute : hit.kind.routeId? = some routeId)
    (hcontroller : hit.kind.controller? = some controller) :
    (lookupEntity entities ⟨"/" ++ path, none, false⟩ scope).outcome =
      .ok (some (entityMatch hit routeId controller none)) := by
  have hentity := entityPath_slash hpath.front
  rw [← hentity] at hlookup
  rw [lookupEntity_of_hit (by rw [hentity]; exact hpath.ne_empty) hlookup hroute hcontroller]

namespace Snapshot

variable {s : Snapshot} {scope : Scope} {kind : EntityKind} {routeId : String}

/-- The URL of an entity is the one that the entity resolver gives. -/
theorem build_entity_eq_ok {params : Params} {id url : String}
    (hroute : kind.routeId? = some routeId) (hknown : s.table.hasRoute scope routeId = true)
    (hid : params.get? "id" = some id) :
    (s.build scope routeId params true "").outcome = .ok url ↔
      s.entities.reverse id kind scope .canonical = .ok (some url) := by
  obtain ⟨handle, hget⟩ := Option.isSome_iff_exists.mp hknown
  unfold build buildUrl
  rw [hget]
  dsimp only
  unfold Build.knownUrl
  rw [if_pos rfl, EntityKind.ofRouteId?_eq_some.mpr hroute]
  dsimp only
  unfold Build.canonicalUrl
  rw [hid]
  dsimp only
  cases s.entities.reverse id kind scope .canonical with
  | error e => simp [Except.map]
  | ok url? => cases url? <;> simp [Except.map]

/-- A snapshot with a fixed list of URLs, friendly ones without a locale, below a mount point that
is in front of no relative path. -/
structure Lists (s : Snapshot) (records : List EntityRecord) (scope : Scope) : Prop where
  entities : s.entities = .ofRecords records
  distinct : EntityRecord.Distinct records
  templated : s.settings.templatedRouting = true
  oneLocale : s.settings.multiLocale = false
  mounted : ∀ base, s.baseUris.get? scope.tenant = some base →
    base = "" ∨ base.toList.head? = some '/'

variable {records : List EntityRecord} {params : Params} {id url : String}

/-- The path of a record, asked for as a URL, resolves to the entity of the record. -/
theorem resolve_record {r : EntityRecord} {controller : String} (h : s.Lists records r.scope)
    (hmem : r ∈ records) (hroute : r.kind.routeId? = some routeId)
    (hcontroller : r.kind.controller? = some controller)
    (hurl : Request.IsPath (EntityRecord.trimSlashes r.path)) :
    (s.resolve (s.request (EntityRecord.trimSlashes r.path) r.scope)).outcome =
      .ok (.matched (Resolve.entityMatch ⟨r.kind, r.id⟩ routeId controller none)) := by
  have hrelative := EntityRecord.relative_trimSlashes hurl
  unfold resolve Waymark.resolve request
  dsimp only
  rw [Resolve.explicitMatch?_of_not_mem hurl.query]
  dsimp only
  rw [h.templated, h.oneLocale, if_pos rfl,
    normalize_mounted h.mounted hrelative (Request.rawPath_of_not_mem hurl.query) hurl.notScript,
    Resolve.resolvePath_slash hurl.notAsset]
  refine Traced.outcome_bind_eq_ok.mpr ⟨some _, ?_, rfl⟩
  refine Resolve.lookupEntity_eq_some hrelative ?_ hroute hcontroller
  rw [h.entities, EntityResolver.lookup_ofRecords h.distinct hmem]

/-- The URL that is built for an entity resolves to the entity, whatever routes its scope has: the
number of the entity is the one that the text of the id spells. -/
theorem resolve_build_entity (h : s.Lists records scope) (hroute : kind.routeId? = some routeId)
    (hknown : s.table.hasRoute scope routeId = true) (hid : params.get? "id" = some id)
    (hbuild : (s.build scope routeId params true "").outcome = .ok url)
    (hurl : Request.IsPath url) :
    ∃ number controller, EntityResolver.idOfText? id = some number ∧
      kind.controller? = some controller ∧
      (s.resolve (s.request url scope)).outcome = .ok (.matched
        { routeId
          controller
          params := .ofList [(kind.idParam, toString number.toNat)]
          moduleDispatch := false
          localeCode := none
          source := .entity }) := by
  obtain ⟨controller, hcontroller, hname⟩ := EntityKind.controller?_of_routeId? hroute
  rw [build_entity_eq_ok hroute hknown hid, h.entities] at hbuild
  -- the URL is the path of a record, and this record is the one that the path leads to
  obtain ⟨r, hmem, hnumber, rfl, rfl, rfl⟩ := EntityResolver.reverse_ofRecords_eq_some hbuild
  refine ⟨r.id, controller, hnumber, hcontroller, ?_⟩
  rw [resolve_record h hmem hroute hcontroller hurl, Resolve.entityMatch, hname]

/-- A mug with a former URL, and a category of another locale with the same number and path. -/
def mugRecords : List EntityRecord :=
  [⟨⟨1, 1⟩, "old/mug", .product, 7, false, none⟩,
    ⟨⟨1, 1⟩, "/green-mug/", .product, 7, true, none⟩,
    ⟨⟨1, 2⟩, "green-mug", .category, 7, true, none⟩]

theorem resolve_build_mug : ∃ s : Snapshot, s.Lists mugRecords ⟨1, 1⟩ ∧
    s.table.hasRoute ⟨1, 1⟩ "product_rule" = true ∧
    (s.build ⟨1, 1⟩ "product_rule" (.ofList [("id", "+007")]) true "").outcome =
      .ok "green-mug" ∧
    Request.IsPath "green-mug" ∧
    (s.resolve (s.request "green-mug" ⟨1, 1⟩)).outcome = .ok (.matched
      { routeId := "product_rule"
        controller := "product"
        params := .ofList [("id_product", "7")]
        moduleDispatch := false
        localeCode := none
        source := .entity }) := by
  obtain ⟨⟨template, regex, segments⟩, hcompile⟩ :=
    Families.compiles_builtIn (t := Families.product) (by simp [Families.builtIn])
  obtain rfl : template = Families.product := (Route.compile_eq_ok hcompile).1
  let s : Snapshot :=
    ⟨Table.empty.insert ⟨1, 1⟩ ⟨⟨Families.product, regex, segments⟩, none⟩, .initial, .empty,
      .ofRecords mugRecords⟩
  have hlists : s.Lists mugRecords ⟨1, 1⟩ := ⟨rfl, by decide, rfl, rfl, by rintro base ⟨⟩⟩
  have hknown : s.table.hasRoute ⟨1, 1⟩ "product_rule" = true := rfl
  have hpath : Request.IsPath "green-mug" :=
    ⟨by decide, by decide, by decide, by decide, by decide⟩
  have hbuild : (s.build ⟨1, 1⟩ "product_rule" (.ofList [("id", "+007")]) true "").outcome =
      .ok "green-mug" := by
    have hreverse : (EntityResolver.ofRecords mugRecords).reverse "+007" .product ⟨1, 1⟩
        .canonical = .ok (some "green-mug") := by
      decide
    exact (@build_entity_eq_ok s _ .product _ _ _ _ rfl hknown rfl).mpr hreverse
  obtain ⟨number, controller, hnumber, hcontroller, hresolve⟩ :=
    @resolve_build_entity s _ .product _ _ _ _ _ hlists rfl hknown rfl hbuild hpath
  obtain rfl : 7 = number := Option.some.inj hnumber
  obtain rfl : "product" = controller := Option.some.inj hcontroller
  exact ⟨s, hlists, hknown, hbuild, hpath, hresolve⟩

end Snapshot

end Waymark
