import Waymark.Proofs.Load.Effect

/-! # Which routes a scope ends up with

Families, pages, custom rules and the index are written to one ordered map, and any of them may
use an id that is there already. So an id stands where it was first written, has the route that
was written last, and the index comes last.
-/

namespace Waymark

namespace Template

/-- Whether a template compiles. -/
def compiles (t : Template) : Bool := t.route?.isSome

theorem map_fst_compiled (ts : List Template) :
    (compiled ts).map Prod.fst = (ts.filter compiles).map Template.routeId := by
  unfold compiled
  induction ts with
  | nil => rfl
  | cons t ts ih =>
      cases hroute : t.route? with
      | none => simp [hroute, compiles, ih]
      | some route => simp [hroute, compiles, ih]

/-- The last route with an id comes from the last template with it that compiles. -/
theorem getLast?_compiled (ts : List Template) (routeId : String) :
    (((compiled ts).filter (·.1 = routeId)).getLast?.map Prod.snd) =
      (ts.filter fun t => t.routeId = routeId && t.compiles).getLast?.bind route? := by
  unfold compiled
  induction ts using List.reverseRecOn with
  | nil => rfl
  | append_singleton ts t ih =>
      by_cases heq : t.routeId = routeId
      · cases hroute : t.route? with
        | none => simpa [hroute, compiles] using ih
        | some route => simp [hroute, compiles, heq]
      · cases hroute : t.route? with
        | none => simpa [hroute, compiles] using ih
        | some route => simpa [hroute, compiles, heq] using ih

end Template

namespace Answers

variable (answers : Answers) (scope : Scope)

/-- A family under its custom rule, if it has one that suits it. -/
def suited? (entry : String × Template) : Option Template :=
  (answers.overrideRule entry.1 scope).bind fun rule =>
    if (entry.2.validateRule rule true).isOk then some (entry.2.withRule rule) else none

/-- The families of a scope under the custom rules that suit them. -/
def customs : List Template :=
  (answers.families scope.tenant).entries.filterMap (answers.suited? scope)

/-- The templates of the routes that are put into a scope, in order. -/
def templates : List Template :=
  (answers.families scope.tenant).values ++ (answers.pages scope).map PageRoute.toTemplate ++
    answers.customs scope

/-- All templates that are built for a tenant. -/
def built (tenant : TenantId) : List Template :=
  (answers.locales tenant).flatMap (fun locale => answers.templates ⟨tenant, locale⟩) ++
    [Families.index]

/-- A family under its custom rule, if it has one that suits it and compiles. -/
def custom? (routeId : String) : Option Template :=
  (((answers.families scope.tenant).get? routeId).bind fun family =>
    answers.suited? scope (routeId, family)).filter Template.compiles

/-- The last page with an id whose URL compiles. -/
def page? (routeId : String) : Option Template :=
  ((answers.pages scope).filter fun p => p.page = routeId && p.toTemplate.compiles).getLast?.map
    PageRoute.toTemplate

/-- The template that the route with an id is made from: a custom rule comes before a page, and
a page before the rule of the family. -/
def chosen? (routeId : String) : Option Template :=
  ((answers.custom? scope routeId).or (answers.page? scope routeId)).or
    ((answers.families scope.tenant).get? routeId)

/-- The ids of the families whose rules compile. -/
def familyIds : List String :=
  ((answers.families scope.tenant).values.filter Template.compiles).map Template.routeId

/-- The ids of the pages whose URLs compile, as far as they are no ids of families. -/
def pageIds : List String :=
  ((((answers.pages scope).filter fun p => p.toTemplate.compiles).map PageRoute.page).filter
    (· ∉ answers.familyIds scope)).eraseDups

/-- The ids of the families that are there by their custom rules only. -/
def customIds : List String :=
  (answers.families scope.tenant).keys.filter fun routeId =>
    routeId ∉ answers.familyIds scope ++ answers.pageIds scope &&
      (answers.custom? scope routeId).isSome

/-- The ids of the routes of a scope in order. -/
def order : List String :=
  (answers.familyIds scope ++ answers.pageIds scope ++ answers.customIds scope).filter
    (· ≠ Families.indexId) ++ [Families.indexId]

variable {answers} {scope}

/-! ### Families go by their ids -/

theorem routeId_of_mem_families {tenant : TenantId} {entry : String × Template}
    (h : entry ∈ (answers.families tenant).entries) : entry.2.routeId = entry.1 := by
  -- the same holds for merging into any map whose entries go by their ids
  have hinsert : ∀ (m : FamilyMap) (ts : List Template),
      (∀ entry ∈ m.entries, entry.2.routeId = entry.1) →
      ∀ entry ∈ (m.insertAll (Provider.familyMap ts)).entries, entry.2.routeId = entry.1 := by
    intro m ts hm
    induction ts generalizing m with
    | nil => exact hm
    | cons t ts ih =>
        refine ih (m.insert t.routeId t) ?_
        intro entry hentry
        rcases OrderedMap.mem_of_mem_insert hentry with rfl | hentry
        · rfl
        · exact hm entry hentry
  exact hinsert _ _ (hinsert .empty _ nofun) entry h

theorem suited?_routeId {entry : String × Template} {t : Template}
    (h : answers.suited? scope entry = some t) : t.routeId = entry.2.routeId := by
  obtain ⟨rule, -, h⟩ := Option.bind_eq_some_iff.mp h
  split at h
  next =>
    cases h
    rfl
  next => cases h

theorem map_routeId_values (tenant : TenantId) :
    (answers.families tenant).values.map Template.routeId = (answers.families tenant).keys := by
  unfold OrderedMap.values OrderedMap.keys
  rw [List.map_map]
  exact List.map_congr_left fun entry hentry => routeId_of_mem_families hentry

theorem nodup_familyIds : (answers.familyIds scope).Nodup := by
  have hsub : List.Sublist (answers.familyIds scope) (answers.families scope.tenant).keys := by
    rw [← map_routeId_values]
    exact List.filter_sublist.map _
  exact (answers.families scope.tenant).nodup_keys.sublist hsub

/-! ### The templates with one id -/

/-- Of what is made from the families, only what is made from one family has its id. -/
theorem filter_routeId {tenant : TenantId} {f : String × Template → Option Template}
    (hf : ∀ entry ∈ (answers.families tenant).entries, ∀ t, f entry = some t →
      t.routeId = entry.1) (routeId : String) :
    ((answers.families tenant).entries.filterMap f).filter
        (fun t => t.routeId = routeId && t.compiles) =
      ((((answers.families tenant).get? routeId).bind fun family =>
        f (routeId, family)).filter Template.compiles).toList := by
  -- among entries whose ids may repeat it is still the entries with the id that count
  have hfirst : ∀ entries : List (String × Template),
      (∀ entry ∈ entries, ∀ t, f entry = some t → t.routeId = entry.1) →
      (entries.filterMap f).filter (fun t => t.routeId = routeId && t.compiles) =
        ((entries.filter (·.1 = routeId)).filterMap f).filter Template.compiles := by
    intro entries hentries
    induction entries with
    | nil => rfl
    | cons entry entries ih =>
        have ih := ih fun entry hentry => hentries entry (List.mem_cons_of_mem _ hentry)
        cases hentry : f entry with
        | none => by_cases heq : entry.1 = routeId <;> simp [hentry, heq, ih]
        | some t =>
            have hid := hentries entry List.mem_cons_self t hentry
            by_cases heq : entry.1 = routeId <;> simp [hentry, hid, heq, List.filter_cons, ih]
  rw [hfirst _ hf, OrderedMap.filter_key]
  cases (answers.families tenant).get? routeId with
  | none => rfl
  | some family =>
      cases ht : f (routeId, family) with
      | none => simp [ht]
      | some t => by_cases hcompiles : t.compiles <;> simp [ht, hcompiles, Option.filter]

/-- What is made from the families has their ids, in the same order. -/
theorem map_routeId_filterMap {tenant : TenantId} {f : String × Template → Option Template}
    (hf : ∀ entry ∈ (answers.families tenant).entries, ∀ t, f entry = some t →
      t.routeId = entry.1) :
    (((answers.families tenant).entries.filterMap f).filter Template.compiles).map
        Template.routeId =
      (answers.families tenant).keys.filter fun routeId =>
        ((((answers.families tenant).get? routeId).bind fun family =>
          f (routeId, family)).filter Template.compiles).isSome := by
  have hpart : ∀ entries : List (String × Template),
      (∀ entry ∈ entries, (answers.families tenant).get? entry.1 = some entry.2 ∧
        ∀ t, f entry = some t → t.routeId = entry.1) →
      ((entries.filterMap f).filter Template.compiles).map Template.routeId =
        (entries.map Prod.fst).filter fun routeId =>
          ((((answers.families tenant).get? routeId).bind fun family =>
            f (routeId, family)).filter Template.compiles).isSome := by
    intro entries hentries
    induction entries with
    | nil => rfl
    | cons entry entries ih =>
        have ih := ih fun entry hentry => hentries entry (List.mem_cons_of_mem _ hentry)
        obtain ⟨hget, hid⟩ := hentries entry List.mem_cons_self
        cases hentry : f entry with
        | none => simp [hentry, hget, ih]
        | some t =>
            have hid := hid t hentry
            by_cases hcompiles : t.compiles <;> simp [hentry, hget, hid, hcompiles, ih]
  exact hpart _ fun entry hentry => ⟨OrderedMap.get?_of_mem hentry, hf entry hentry⟩

theorem filter_customs (routeId : String) :
    (answers.customs scope).filter (fun t => t.routeId = routeId && t.compiles) =
      (answers.custom? scope routeId).toList := by
  refine filter_routeId (fun entry hentry t ht => ?_) routeId
  rw [suited?_routeId ht, routeId_of_mem_families hentry]

theorem filter_families (tenant : TenantId) (routeId : String) :
    (answers.families tenant).values.filter (fun t => t.routeId = routeId && t.compiles) =
      (((answers.families tenant).get? routeId).filter Template.compiles).toList := by
  have hvalues : (answers.families tenant).values =
      (answers.families tenant).entries.filterMap fun entry => some entry.2 :=
    congrFun List.filterMap_eq_map.symm _
  rw [hvalues, filter_routeId (fun entry hentry t ht => ?_) routeId]
  · simp
  · cases ht
    exact routeId_of_mem_families hentry

theorem getLast?_pages (routeId : String) :
    (((answers.pages scope).map PageRoute.toTemplate).filter
      fun t => t.routeId = routeId && t.compiles).getLast? = answers.page? scope routeId := by
  rw [List.filter_map, List.getLast?_map]
  rfl

end Answers

/-! ### The routes of a scope before the index -/

namespace Answers

/-- What loading has written to a scope when it comes to the index. -/
def written (answers : Answers) (scope : Scope) : OrderedMap String Route :=
  OrderedMap.empty.insertAll (Template.compiled (answers.templates scope))

variable {answers : Answers} {scope : Scope}

theorem keys_written : (answers.written scope).keys =
    answers.familyIds scope ++ answers.pageIds scope ++ answers.customIds scope := by
  have hfamilies : (OrderedMap.empty.insertAll
      (Template.compiled (answers.families scope.tenant).values)).keys =
      answers.familyIds scope := by
    rw [OrderedMap.keys_insertAll, Template.map_fst_compiled]
    have hnew : (answers.familyIds scope).filter
        (· ∉ (OrderedMap.empty : OrderedMap String Route).keys) = answers.familyIds scope :=
      List.filter_eq_self.mpr fun _ _ => rfl
    change [] ++ ((answers.familyIds scope).filter _).eraseDups = _
    rw [hnew, List.nil_append, OrderedMap.eraseDups_of_nodup nodup_familyIds]
  have hpages : (((answers.pages scope).map PageRoute.toTemplate).filter Template.compiles).map
      Template.routeId =
      ((answers.pages scope).filter fun p => p.toTemplate.compiles).map PageRoute.page := by
    rw [List.filter_map, List.map_map]
    rfl
  have hcustoms : ((answers.customs scope).filter Template.compiles).map Template.routeId =
      (answers.families scope.tenant).keys.filter
        fun routeId => (answers.custom? scope routeId).isSome :=
    map_routeId_filterMap fun entry hentry t ht => by
      rw [suited?_routeId ht, routeId_of_mem_families hentry]
  have hnodup : (answers.customIds scope).Nodup :=
    (answers.families scope.tenant).nodup_keys.filter _
  unfold written templates
  rw [Template.compiled_append, Template.compiled_append, OrderedMap.insertAll_append,
    OrderedMap.insertAll_append, OrderedMap.keys_insertAll, OrderedMap.keys_insertAll, hfamilies,
    Template.map_fst_compiled, Template.map_fst_compiled, hpages, hcustoms, List.filter_filter]
  change answers.familyIds scope ++ answers.pageIds scope ++
    (answers.customIds scope).eraseDups = _
  rw [OrderedMap.eraseDups_of_nodup hnodup]

theorem compiles_of_custom? {routeId : String} {t : Template}
    (h : answers.custom? scope routeId = some t) : t.compiles = true :=
  (Option.filter_eq_some_iff.mp h).2

theorem compiles_of_page? {routeId : String} {t : Template}
    (h : answers.page? scope routeId = some t) : t.compiles = true := by
  obtain ⟨p, hlast, rfl⟩ := Option.map_eq_some_iff.mp h
  have hmem := List.mem_of_getLast? hlast
  exact (Bool.and_eq_true_iff.mp (List.mem_filter.mp hmem).2).2

/-- What is written under an id last is the route of its template. -/
theorem chosen?_of_get?_written {routeId : String} {r : Route}
    (h : (answers.written scope).get? routeId = some r) :
    answers.chosen? scope routeId = some r.template ∧ Route.compile r.template = .ok r := by
  have hlast : ∀ o : Option Template, o.toList.getLast? = o := by
    intro o
    cases o <;> rfl
  unfold written templates at h
  simp only [Template.compiled_append, OrderedMap.insertAll_append, OrderedMap.get?_insertAll,
    Template.getLast?_compiled, filter_customs, filter_families, getLast?_pages,
    hlast, OrderedMap.get?_empty, Option.or_none] at h
  have hroute : ∀ {t : Template}, t.route? = some r → t = r.template ∧ Route.compile t = .ok r :=
    fun h => ⟨(Route.compile_eq_ok (Template.route?_eq_some.mp h)).1.symm,
      Template.route?_eq_some.mp h⟩
  -- later writes win: custom rules were written after pages, and pages after families
  unfold chosen?
  cases hcustom : answers.custom? scope routeId with
  | some t =>
      obtain ⟨route, ht⟩ := Option.isSome_iff_exists.mp (compiles_of_custom? hcustom)
      simp only [hcustom, Option.bind_some, ht, Option.some_or, Option.some.injEq] at h
      subst h
      obtain ⟨rfl, hcompile⟩ := hroute ht
      exact ⟨rfl, hcompile⟩
  | none =>
      cases hpage : answers.page? scope routeId with
      | some t =>
          obtain ⟨route, ht⟩ := Option.isSome_iff_exists.mp (compiles_of_page? hpage)
          simp only [hcustom, hpage, Option.bind_some, Option.bind_none, Option.none_or, ht,
            Option.some_or, Option.some.injEq] at h
          subst h
          obtain ⟨rfl, hcompile⟩ := hroute ht
          exact ⟨rfl, hcompile⟩
      | none =>
          simp only [hcustom, hpage, Option.bind_none, Option.none_or] at h
          obtain ⟨t, hfamily, ht⟩ := Option.bind_eq_some_iff.mp h
          obtain ⟨rfl, hcompile⟩ := hroute ht
          exact ⟨(Option.filter_eq_some_iff.mp hfamily).1, hcompile⟩

end Answers

end Waymark
