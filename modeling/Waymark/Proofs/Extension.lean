import Waymark.Proofs.Priority

/-! # Adding a route

A route with an id that its scope does not have yet is tried after all other routes, but for those
with an empty rule; and these take the path of no request. So it wins only requests that no other
route wins, and no request that an earlier stage answers gets to see it.
-/

namespace Waymark

variable {table : Table} {scope : Scope} {handle : Handle}

namespace Table

theorem values_bucket_insert (hnew : table.get? scope handle.route.routeId = none) :
    ((table.insert scope handle).bucket scope).values =
      (table.bucket scope).values ++ [handle] := by
  have hkey : handle.route.routeId ∉ (table.bucket scope).keys :=
    OrderedMap.get?_eq_none_iff.mp hnew
  rw [bucket_insert, if_pos rfl]
  change (OrderedMap.put _ _ (table.bucket scope).entries).map Prod.snd = _
  rw [OrderedMap.put_of_not_mem hkey, List.map_append]
  rfl

/-- A new route is tried before none but routes with an empty rule. -/
theorem routes_insert_new (hnew : table.get? scope handle.route.routeId = none) :
    ∃ before after, table.routes scope = before ++ after ∧
      (table.insert scope handle).routes scope = before ++ handle :: after ∧
      ∀ other ∈ after, other.route.isEmptyRule = true := by
  unfold routes
  dsimp only
  rw [values_bucket_insert hnew, List.filter_append, List.filter_append]
  cases hempty : handle.route.isEmptyRule with
  | true =>
      refine ⟨_, [], (List.append_nil _).symm, ?_, nofun⟩
      simp [hempty]
  | false =>
      refine ⟨_, _, rfl, ?_, fun other hother => (List.mem_filter.mp hother).2⟩
      simp [hempty]

theorem routes_insert_of_ne {other : Scope} (hne : other ≠ scope) :
    (table.insert scope handle).routes other = table.routes other := by
  unfold routes
  rw [bucket_insert, if_neg hne.symm]

end Table

namespace Resolve

variable {settings : Settings} {context : RequestContext}

/-- A new route is tried on the path of a request where no other route takes it. -/
theorem scan_insert_new (hbuilt : table.Built)
    (hnew : table.get? scope handle.route.routeId = none) :
    scan settings context.normalized ((table.insert scope handle).routes scope) =
      (scan settings context.normalized (table.routes scope)).or
        (tryRoute settings context.normalized handle.route) := by
  obtain ⟨before, after, hroutes, hinsert, hempty⟩ := Table.routes_insert_new hnew
  have hafter : scan settings context.normalized after = none := by
    refine scan_eq_none_iff.mpr fun other hother => ?_
    have hmem : other ∈ table.routes scope := hroutes ▸ List.mem_append_right before hother
    exact not_takes_of_emptyRule (hbuilt.spec (hbuilt.get?_of_mem_routes hmem)).2
      (beq_iff_eq.mp (hempty other hother))
  rw [hroutes, hinsert]
  unfold scan at hafter ⊢
  rw [List.findSome?_append, List.findSome?_append, List.findSome?_cons, hafter, Option.or_none]
  cases tryRoute settings context.normalized handle.route <;> rfl

/-- Adding a route leaves an answer as it is, or makes a match of the new route where there was
none. -/
theorem resolve_insert_cases (hbuilt : table.Built)
    (hnew : table.get? scope handle.route.routeId = none) (entities : EntityResolver)
    (settings : Settings) (context : RequestContext) :
    resolve (table.insert scope handle) entities settings context =
        resolve table entities settings context ∨
      context.scope = scope ∧
        (resolve table entities settings context).outcome = .ok .notFound ∧
        ∃ found, tryRoute settings context.normalized handle.route = some found ∧
          (resolve (table.insert scope handle) entities settings context).outcome =
            .ok (.matched found) := by
  rcases resolve_cases entities settings context with ⟨answer, hanswer⟩ | ⟨calls, hscan⟩
  · exact .inl ((hanswer _).trans (hanswer _).symm)
  · rw [hscan, hscan]
    by_cases hscope : context.scope = scope
    · rw [hscope, scan_insert_new hbuilt hnew]
      cases hold : scan settings context.normalized (table.routes scope) with
      | some found => exact .inl rfl
      | none =>
          cases htry : tryRoute settings context.normalized handle.route with
          | some found => exact .inr ⟨rfl, rfl, found, rfl, rfl⟩
          | none => exact .inl rfl
    · rw [Table.routes_insert_of_ne hscope]
      exact .inl rfl

/-- Adding a route under a new id changes no answer of another scope, and of the answers of its own
scope none but that there is no match: this becomes a match of the new route, if it takes the
path. -/
theorem resolve_insert_new (hbuilt : table.Built)
    (hnew : table.get? scope handle.route.routeId = none) (entities : EntityResolver)
    (settings : Settings) (context : RequestContext) :
    (∀ found, (resolve table entities settings context).outcome = .ok (.matched found) →
      (resolve (table.insert scope handle) entities settings context).outcome =
        .ok (.matched found)) ∧
    (∀ error, (resolve table entities settings context).outcome = .error error →
      (resolve (table.insert scope handle) entities settings context).outcome = .error error) ∧
    ((resolve table entities settings context).outcome = .ok .notFound →
      (resolve (table.insert scope handle) entities settings context).outcome = .ok .notFound ∨
      ∃ found, (resolve (table.insert scope handle) entities settings context).outcome =
          .ok (.matched found) ∧ found.source = .route ∧
        found.routeId = handle.route.routeId ∧
        tryRoute settings context.normalized handle.route = some found) ∧
    (context.scope ≠ scope → resolve (table.insert scope handle) entities settings context =
      resolve table entities settings context) := by
  rcases resolve_insert_cases hbuilt hnew entities settings context with
    hsame | ⟨hscope, hnone, found, htry, hfound⟩
  · rw [hsame]
    exact ⟨fun _ h => h, fun _ h => h, .inl, fun _ => rfl⟩
  · rw [hnone]
    obtain ⟨-, captures, -, hmatch⟩ := tryRoute_eq_some.mp htry
    refine ⟨nofun, nofun, fun _ => .inr ⟨found, hfound, ?_, ?_, htry⟩, fun hne => ?_⟩
    · rw [← hmatch]
      rfl
    · rw [← hmatch]
      rfl
    · exact absurd hscope hne

/-- The page comes into a table that has only the index, and finds the request that had no match. -/
theorem resolve_insert_new_seventhPage : ∃ (index page : Handle),
    index.route.template = Families.index ∧ page.route.template = Route.numberedPage ∧
      (Table.empty.insert ⟨1, 1⟩ index).Built ∧
      (resolve (Table.empty.insert ⟨1, 1⟩ index) (.ofRecords []) .initial
        seventhRequest).outcome = .ok .notFound ∧
      ∃ found, (resolve ((Table.empty.insert ⟨1, 1⟩ index).insert ⟨1, 1⟩ page) (.ofRecords [])
          .initial seventhRequest).outcome = .ok (.matched found) ∧
        found.source = .route ∧ found.routeId = "page" := by
  obtain ⟨⟨template, regex, segments⟩, hindex⟩ := Families.compile_index
  obtain rfl : template = Families.index := (Route.compile_eq_ok hindex).1
  obtain ⟨regex', hpage⟩ := Route.compile_numberedPage
  let index : Handle := ⟨⟨Families.index, regex, segments⟩, none⟩
  let page : Handle :=
    ⟨⟨Route.numberedPage, regex', [.placeholder Route.pageNumber, .literal ".html"]⟩, none⟩
  have hbuilt : (Table.empty.insert ⟨1, 1⟩ index).Built := .insert _ .empty hindex
  have hnone : (resolve (Table.empty.insert ⟨1, 1⟩ index) (.ofRecords []) .initial
      seventhRequest).outcome = .ok .notFound := by
    rw [resolve_of_reachesRoutes reachesRoutes_seventhRequest, Except.ok.injEq,
      ofMatch?_eq_notFound, scan_eq_none_iff]
    intro other hother
    rw [List.mem_singleton.mp (hother : other ∈ [index])]
    exact not_takes_of_emptyRule hindex rfl
  refine ⟨index, page, rfl, rfl, hbuilt, hnone, ?_⟩
  have habsent : (Table.empty.insert ⟨1, 1⟩ index).get? ⟨1, 1⟩ page.route.routeId = none := rfl
  obtain ⟨-, -, hnew, -⟩ :=
    resolve_insert_new hbuilt habsent (.ofRecords []) .initial seventhRequest
  rcases hnew hnone with hstill | ⟨found, hfound, hsource, hid, -⟩
  · -- the page takes the path, so it is not that it is still not found
    rw [resolve_of_reachesRoutes reachesRoutes_seventhRequest, Except.ok.injEq,
      ofMatch?_eq_notFound, scan_eq_none_iff] at hstill
    refine absurd ?_ (hstill page List.mem_cons_self)
    rw [normalized_seventhRequest]
    exact takes_seventhPage hpage
  · exact ⟨found, hfound, hsource, hid⟩

end Resolve

end Waymark
