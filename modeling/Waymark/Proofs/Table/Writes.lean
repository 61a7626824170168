import Mathlib.Algebra.Ring.Nat
import Mathlib.Data.List.Basic
import Waymark.Proofs.Table

/-! # What a table makes of the writes to it

A scope holds every id that was written to it, with the route that was written last. An id stands
where it was last pushed to the end or, if it never was, where it was first written; a route that
replaces another takes over its place, whether the rules are empty or not.
-/

namespace Waymark.Table

/-- A write to a table. -/
inductive Write where
  /-- Compiles a template and puts the route into a scope. -/
  | add (scope : Scope) (t : Template)
  /-- Puts a route into a scope. -/
  | insert (scope : Scope) (handle : Handle)
  /-- Puts a route at the end of a scope. -/
  | pushLast (scope : Scope) (handle : Handle)

/-- The table after a write. A template that does not compile leaves the table as it is. -/
def write (table : Table) : Write → Table
  | .add scope t => (table.add scope t).toOption.getD table
  | .insert scope handle => table.insert scope handle
  | .pushLast scope handle => table.pushLast scope handle

/-- The table after writes in turn. -/
def writeAll (table : Table) (writes : List Write) : Table := writes.foldl write table

namespace Write

/-- The scope that is written to. -/
def scope : Write → Scope
  | .add scope _ => scope
  | .insert scope _ => scope
  | .pushLast scope _ => scope

/-- The route that is written: none if the template does not compile. -/
def handle? : Write → Option Handle
  | .add _ t => t.route?.map fun route => ⟨route, none⟩
  | .insert _ handle => some handle
  | .pushLast _ handle => some handle

/-- Whether the route goes to the end. -/
def isPush : Write → Bool
  | .pushLast _ _ => true
  | _ => false

/-- The route that a scope is given under an id. -/
def gives? (scope : Scope) (routeId : String) (w : Write) : Option Handle :=
  w.handle?.filter fun handle => w.scope = scope ∧ handle.route.routeId = routeId

/-- The route that a scope is given last under an id. -/
def latest? (scope : Scope) (routeId : String) (writes : List Write) : Option Handle :=
  (writes.filterMap (gives? scope routeId)).getLast?

/-- The number of the write that places an id in a scope: the last that pushes it to the end, or
else the first that writes it. -/
def place? (scope : Scope) (routeId : String) (writes : List Write) : Option Nat :=
  (writes.findIdxs fun w => w.isPush && (w.gives? scope routeId).isSome).getLast?.or
    (writes.findIdxs fun w => (w.gives? scope routeId).isSome).head?

variable {w : Write} {writes : List Write} {scope : Scope} {routeId : String} {handle : Handle}

theorem gives?_eq_some : w.gives? scope routeId = some handle ↔
    w.handle? = some handle ∧ w.scope = scope ∧ handle.route.routeId = routeId := by
  simp [gives?]

theorem gives?_of_handle? (hhandle : w.handle? = some handle) (hscope : w.scope = scope) :
    w.gives? scope routeId = if handle.route.routeId = routeId then some handle else none := by
  rw [gives?, hhandle, Option.filter_some]
  simp [hscope]

/-- A write that fails or is for another scope gives a scope nothing. -/
theorem gives?_eq_none (h : w.scope ≠ scope ∨ w.handle? = none) :
    w.gives? scope routeId = none := by
  rw [Option.eq_none_iff_forall_ne_some]
  intro handle hgives
  obtain ⟨hhandle, hscope, -⟩ := gives?_eq_some.mp hgives
  rcases h with hne | hnone
  · exact hne hscope
  · rw [hnone] at hhandle
    cases hhandle

theorem isSome_latest? : (latest? scope routeId writes).isSome = true ↔
    ∃ w ∈ writes, (w.gives? scope routeId).isSome = true := by
  unfold latest?
  rw [List.getLast?_isSome, ← List.length_pos_iff, List.length_pos_iff_exists_mem]
  simp [Option.isSome_iff_exists]
  grind

theorem latest?_append : latest? scope routeId (writes ++ [w]) =
    (w.gives? scope routeId).or (latest? scope routeId writes) := by
  unfold latest?
  rw [List.filterMap_append, List.getLast?_append, List.filterMap_cons]
  cases w.gives? scope routeId <;> rfl

/-- A write places the id that it pushes to the end, and the id that has no place yet. -/
theorem place?_append : place? scope routeId (writes ++ [w]) =
    if (w.gives? scope routeId).isSome then
      if w.isPush then some writes.length
      else (place? scope routeId writes).or (some writes.length)
    else place? scope routeId writes := by
  unfold place?
  rw [List.findIdxs_append, List.findIdxs_append, List.findIdxs_singleton, List.findIdxs_singleton]
  cases (w.gives? scope routeId).isSome <;> cases w.isPush <;> simp

theorem place?_append_of_stays {n : Nat} (hplace : place? scope routeId writes = some n)
    (hstays : w.isPush = false ∨ w.gives? scope routeId = none) :
    place? scope routeId (writes ++ [w]) = some n := by
  rw [place?_append, hplace]
  rcases hstays with hpush | hnone
  · simp [hpush]
  · simp [hnone]

theorem place?_append_of_last (hgives : w.gives? scope routeId = some handle)
    (hlast : w.isPush = true ∨ place? scope routeId writes = none) :
    place? scope routeId (writes ++ [w]) = some writes.length := by
  rw [place?_append, hgives]
  rcases hlast with hpush | hnone
  · simp [hpush]
  · simp [hnone]

theorem lt_of_place?_eq_some {n : Nat} (h : place? scope routeId writes = some n) :
    n < writes.length := by
  rcases Option.or_eq_some_iff.mp h with hlast | ⟨-, hfirst⟩
  · exact List.lt_add_of_mem_findIdxs n (List.mem_of_getLast? hlast)
  · exact List.lt_add_of_mem_findIdxs n (List.mem_of_head? hfirst)

/-- The ids that a scope is given have a place, and no others. -/
theorem isSome_place? : (place? scope routeId writes).isSome = true ↔
    ∃ w ∈ writes, (w.gives? scope routeId).isSome = true := by
  unfold place?
  rw [Option.isSome_or, Bool.or_eq_true, List.getLast?_isSome, List.isSome_head?, Ne, Ne,
    List.findIdxs_eq_nil_iff, List.findIdxs_eq_nil_iff]
  grind

end Write

variable {table : Table} {w : Write} {writes : List Write} {scope : Scope}

/-! ## One write -/

/-- A write fails or puts its route into its scope, in place or at the end. -/
theorem write_eq : table.write w = match w.handle? with
    | none => table
    | some handle =>
        if w.isPush then table.pushLast w.scope handle else table.insert w.scope handle := by
  cases w with
  | add other t =>
      dsimp only [write, add, Write.handle?, Template.route?]
      cases Route.compile t <;> rfl
  | insert other handle => rfl
  | pushLast other handle => rfl

/-- A write that fails or is for another scope leaves the routes of a scope alone. -/
theorem bucket_write_of_not_given (h : w.scope ≠ scope ∨ w.handle? = none) :
    (table.write w).bucket scope = table.bucket scope := by
  rw [write_eq]
  cases hhandle : w.handle? with
  | none => rfl
  | some handle =>
      have hne : w.scope ≠ scope := h.resolve_right (by simp [hhandle])
      dsimp only
      split
      · rw [bucket_pushLast, if_neg hne]
      · rw [bucket_insert, if_neg hne]

/-- What a write makes of the scope to which it gives a route. -/
theorem bucket_write {handle : Handle} (hhandle : w.handle? = some handle)
    (hscope : w.scope = scope) : (table.write w).bucket scope =
      (if w.isPush then (table.bucket scope).erase handle.route.routeId
        else table.bucket scope).insert handle.route.routeId handle := by
  rw [write_eq, hhandle]
  dsimp only
  split
  · rw [bucket_pushLast, if_pos hscope]
  · rw [bucket_insert, if_pos hscope]

theorem get?_write (routeId : String) : (table.write w).get? scope routeId =
    (w.gives? scope routeId).or (table.get? scope routeId) := by
  unfold get?
  by_cases hgiven : w.scope ≠ scope ∨ w.handle? = none
  · rw [bucket_write_of_not_given hgiven, Write.gives?_eq_none hgiven, Option.none_or]
  · obtain ⟨hscope, hhandle⟩ := not_or.mp hgiven
    obtain ⟨handle, hhandle⟩ := Option.ne_none_iff_exists'.mp hhandle
    rw [bucket_write hhandle (not_not.mp hscope), OrderedMap.get?_insert,
      Write.gives?_of_handle? hhandle (not_not.mp hscope)]
    split
    next => rfl
    next hne =>
      rw [Option.none_or]
      split
      · exact OrderedMap.get?_erase_ne hne
      · rfl

/-- The ids of a scope after a write: an id that is pushed leaves its place, and an id without a
place goes to the end. -/
theorem keys_write {handle : Handle} (hhandle : w.handle? = some handle)
    (hscope : w.scope = scope) : ((table.write w).bucket scope).keys =
      if !w.isPush ∧ handle.route.routeId ∈ (table.bucket scope).keys then
        (table.bucket scope).keys
      else (table.bucket scope).keys.filter (· ≠ handle.route.routeId) ++
        [handle.route.routeId] := by
  rw [bucket_write hhandle hscope, OrderedMap.keys_insert]
  cases w.isPush with
  | true => simp [OrderedMap.keys_erase]
  | false =>
      by_cases hmem : handle.route.routeId ∈ (table.bucket scope).keys
      · simp [hmem]
      · have hothers : (table.bucket scope).keys.filter (· ≠ handle.route.routeId) =
            (table.bucket scope).keys :=
          List.filter_eq_self.mpr fun routeId hother =>
            decide_eq_true (ne_of_mem_of_not_mem hother hmem)
        rw [hothers]
        simp [hmem]

theorem mem_buckets_write (h : scope ∈ (table.write w).buckets.keys) :
    scope ∈ table.buckets.keys ∨ w.scope = scope := by
  rw [write_eq] at h
  cases hhandle : w.handle? with
  | none =>
      rw [hhandle] at h
      exact .inl h
  | some handle =>
      rw [hhandle] at h
      obtain ⟨bucket, hbuckets⟩ : ∃ bucket, (if w.isPush then table.pushLast w.scope handle
          else table.insert w.scope handle).buckets = table.buckets.insert w.scope bucket := by
        split
        · exact ⟨_, rfl⟩
        · exact ⟨_, rfl⟩
      dsimp only at h
      rw [hbuckets, OrderedMap.keys_insert] at h
      split at h
      · exact .inl h
      · exact (List.mem_append.mp h).imp_right fun hlast => (List.mem_singleton.mp hlast).symm

/-! ## Many writes -/

theorem writeAll_append : table.writeAll (writes ++ [w]) = (table.writeAll writes).write w :=
  List.foldl_append

theorem get?_writeAll (routeId : String) :
    (empty.writeAll writes).get? scope routeId = Write.latest? scope routeId writes := by
  induction writes using List.reverseRecOn with
  | nil => rfl
  | append_singleton writes w ih =>
      rw [writeAll_append, get?_write, ih, Write.latest?_append]

theorem mem_keys_writeAll {routeId : String} :
    routeId ∈ ((empty.writeAll writes).bucket scope).keys ↔
      ∃ w ∈ writes, (w.gives? scope routeId).isSome = true := by
  rw [← OrderedMap.contains_iff, ← Write.isSome_latest?, ← get?_writeAll]
  rfl

/-- The ids that a scope holds have a place, and no others. -/
theorem isSome_place?_writeAll {routeId : String} :
    (Write.place? scope routeId writes).isSome = true ↔
      routeId ∈ ((empty.writeAll writes).bucket scope).keys :=
  Write.isSome_place?.trans mem_keys_writeAll.symm

/-- The ids of a scope stand in the order of the writes that placed them. -/
theorem placed_writeAll : ((empty.writeAll writes).bucket scope).keys.Pairwise fun first second =>
    ∃ m n, Write.place? scope first writes = some m ∧
      Write.place? scope second writes = some n ∧ m < n := by
  -- the induction takes the last write off, which leaves all ids but one in their places
  induction writes using List.reverseRecOn with
  | nil => exact .nil
  | append_singleton writes w ih =>
      rw [writeAll_append]
      by_cases hgiven : w.scope ≠ scope ∨ w.handle? = none
      · rw [bucket_write_of_not_given hgiven]
        simp only [Write.place?_append, Write.gives?_eq_none hgiven, Option.isSome_none,
          Bool.false_eq_true, if_false]
        exact ih
      · obtain ⟨hscope, hhandle⟩ := not_or.mp hgiven
        obtain ⟨handle, hhandle⟩ := Option.ne_none_iff_exists'.mp hhandle
        have hgives : ∀ routeId, w.gives? scope routeId =
            if handle.route.routeId = routeId then some handle else none := fun _ =>
          Write.gives?_of_handle? hhandle (not_not.mp hscope)
        rw [keys_write hhandle (not_not.mp hscope)]
        split
        next hstays =>
          have hpush : w.isPush = false := by simpa using hstays.1
          refine ih.imp ?_
          rintro first second ⟨m, n, hfirst, hsecond, hlt⟩
          exact ⟨m, n, Write.place?_append_of_stays hfirst (.inl hpush),
            Write.place?_append_of_stays hsecond (.inl hpush), hlt⟩
        next hend =>
          have hothers : ∀ routeId n, routeId ≠ handle.route.routeId →
              Write.place? scope routeId writes = some n →
              Write.place? scope routeId (writes ++ [w]) = some n := fun routeId n hne hplace =>
            Write.place?_append_of_stays hplace (.inr ((hgives routeId).trans (if_neg hne.symm)))
          rw [List.pairwise_append]
          refine ⟨?_, List.pairwise_singleton _ _, ?_⟩
          · refine List.pairwise_filter.mpr (ih.imp ?_)
            rintro first second ⟨m, n, hfirst, hsecond, hlt⟩ hne hne'
            exact ⟨m, n, hothers first m (of_decide_eq_true hne) hfirst,
              hothers second n (of_decide_eq_true hne') hsecond, hlt⟩
          · intro first hfirst second hsecond
            obtain rfl := List.mem_singleton.mp hsecond
            obtain ⟨hfirst, hne⟩ := List.mem_filter.mp hfirst
            obtain ⟨m, hplace⟩ := Option.isSome_iff_exists.mp (isSome_place?_writeAll.mpr hfirst)
            refine ⟨m, writes.length, hothers first m (of_decide_eq_true hne) hplace, ?_,
              Write.lt_of_place?_eq_some hplace⟩
            refine Write.place?_append_of_last ((hgives _).trans (if_pos rfl)) ?_
            by_cases hpush : w.isPush = true
            · exact .inl hpush
            · refine .inr (Option.not_isSome_iff_eq_none.mp fun hplaced => hend ?_)
              exact ⟨by simpa using hpush, isSome_place?_writeAll.mp hplaced⟩

/-- The scopes with routes were written to. -/
theorem mem_buckets_writeAll (h : scope ∈ (empty.writeAll writes).buckets.keys) :
    ∃ w ∈ writes, w.scope = scope := by
  induction writes using List.reverseRecOn with
  | nil => cases h
  | append_singleton writes w ih =>
      rw [writeAll_append] at h
      rcases mem_buckets_write h with hold | hscope
      · obtain ⟨earlier, hmem, hscope⟩ := ih hold
        exact ⟨earlier, List.mem_append_left _ hmem, hscope⟩
      · exact ⟨w, List.mem_append_right _ List.mem_cons_self, hscope⟩

/-! ## The order in which routes are tried -/

theorem perm_routes (table : Table) (scope : Scope) :
    (table.routes scope).Perm (table.bucket scope).values := by
  have hsplit := List.filter_append_perm (fun handle : Handle => !handle.route.isEmptyRule)
    (table.bucket scope).values
  simp only [Bool.not_not] at hsplit
  exact hsplit

/-- Behind a route with an empty rule there are no others. -/
theorem pairwise_routes (table : Table) (scope : Scope) :
    (table.routes scope).Pairwise fun first second =>
      first.route.isEmptyRule = true → second.route.isEmptyRule = true := by
  refine List.pairwise_append.mpr ⟨?_, ?_, ?_⟩
  · refine List.pairwise_of_forall_mem_list fun first hfirst second _ hempty => ?_
    simp [hempty] at hfirst
  · exact List.pairwise_of_forall_mem_list fun _ _ second hsecond _ =>
      (List.mem_filter.mp hsecond).2
  · exact fun _ _ second hsecond _ => (List.mem_filter.mp hsecond).2

/-- The routes with an empty rule keep the order of the scope, and so do the others. -/
theorem filter_routes (table : Table) (scope : Scope) (isEmpty : Bool) :
    (table.routes scope).filter (fun handle => handle.route.isEmptyRule = isEmpty) =
      (table.bucket scope).values.filter fun handle => handle.route.isEmptyRule = isEmpty := by
  unfold routes
  dsimp only
  rw [List.filter_append, List.filter_filter, List.filter_filter]
  cases isEmpty <;> simp

/-! ## The number of routes -/

/-- The routes of a table are counted scope by scope. -/
theorem size_eq_sum {scopes : List Scope} (hnodup : scopes.Nodup)
    (hall : ∀ scope ∈ table.buckets.keys, scope ∈ scopes) :
    table.size = (scopes.map fun scope => (table.bucket scope).size).sum := by
  have hbuckets : table.size =
      (table.buckets.keys.map fun scope => (table.bucket scope).size).sum := by
    unfold size handles OrderedMap.values OrderedMap.keys
    rw [List.length_flatMap, List.map_map, List.map_map]
    congr 1
    refine List.map_congr_left fun entry hentry => ?_
    simp [bucket, OrderedMap.get?_of_mem hentry, OrderedMap.size]
  -- the scopes that the table does not know have no routes
  have hunknown : ∀ scope ∈ scopes.filter fun scope => !decide (scope ∈ table.buckets.keys),
      (table.bucket scope).size = 0 := by
    intro scope hscope
    have hnew : scope ∉ table.buckets.keys := by simpa using (List.mem_filter.mp hscope).2
    have hnone : table.buckets.get? scope = none := OrderedMap.get?_eq_none_iff.mpr hnew
    rw [bucket, hnone]
    rfl
  have hknown : (scopes.filter fun scope => scope ∈ table.buckets.keys).Perm
      table.buckets.keys := by
    refine (List.perm_ext_iff_of_nodup (hnodup.filter _) table.buckets.nodup_keys).mpr ?_
    intro scope
    rw [List.mem_filter, decide_eq_true_eq]
    exact ⟨And.right, fun hmem => ⟨hall scope hmem, hmem⟩⟩
  have hsplit := (List.filter_append_perm (fun scope => decide (scope ∈ table.buckets.keys))
    scopes).map fun scope => (table.bucket scope).size
  rw [hbuckets, ← hsplit.sum_nat, List.map_append, List.sum_append, (hknown.map _).sum_nat,
    Nat.left_eq_add, List.sum_eq_zero_iff_forall_eq_nat]
  intro count hcount
  obtain ⟨scope, hscope, rfl⟩ := List.mem_map.mp hcount
  exact hunknown scope hscope

/-! ## What the writes determine -/

/-- What a table is after writes, told from the writes alone. -/
structure Reflects (table : Table) (writes : List Write) : Prop where
  /-- A scope holds the ids that were written to it. -/
  holds : ∀ scope routeId, routeId ∈ (table.bucket scope).keys ↔
    ∃ w ∈ writes, (w.gives? scope routeId).isSome = true
  once : ∀ scope, (table.bucket scope).keys.Nodup
  latest : ∀ scope routeId, table.get? scope routeId = Write.latest? scope routeId writes
  /-- The ids of a scope stand in the order of the writes that placed them. -/
  placed : ∀ scope, (table.bucket scope).keys.Pairwise fun first second =>
    ∃ m n, Write.place? scope first writes = some m ∧
      Write.place? scope second writes = some n ∧ m < n
  tried : ∀ scope, (table.routes scope).Perm (table.bucket scope).values
  /-- Behind a route with an empty rule there are no others. -/
  fallback : ∀ scope, (table.routes scope).Pairwise fun first second =>
    first.route.isEmptyRule = true → second.route.isEmptyRule = true
  stable : ∀ scope isEmpty,
    (table.routes scope).filter (fun handle => handle.route.isEmptyRule = isEmpty) =
      (table.bucket scope).values.filter fun handle => handle.route.isEmptyRule = isEmpty
  /-- A write that fails or is for another scope changes nothing in a scope. -/
  frame : ∀ w scope, w.scope ≠ scope ∨ w.handle? = none →
    (table.write w).routes scope = table.routes scope ∧
      (∀ routeId, (table.write w).get? scope routeId = table.get? scope routeId) ∧
      ∀ routeId keyword,
        (table.write w).hasKeyword scope routeId keyword = table.hasKeyword scope routeId keyword
  size : ∀ scopes : List Scope, scopes.Nodup → (∀ w ∈ writes, w.scope ∈ scopes) →
    table.size = (scopes.map fun scope => (table.bucket scope).size).sum

/-- Whatever is written to a table, in whatever order, the table reflects the writes. -/
theorem writeAll_reflects (writes : List Write) : (empty.writeAll writes).Reflects writes where
  holds _ _ := mem_keys_writeAll
  once scope := ((empty.writeAll writes).bucket scope).nodup_keys
  latest _ _ := get?_writeAll _
  placed _ := placed_writeAll
  tried := perm_routes _
  fallback := pairwise_routes _
  stable := filter_routes _
  frame w scope h := by
    have hbucket : ((empty.writeAll writes).write w).bucket scope = _ :=
      bucket_write_of_not_given h
    unfold routes hasKeyword get?
    rw [hbucket]
    exact ⟨rfl, fun _ => rfl, fun _ _ => rfl⟩
  size scopes hnodup hall := by
    refine size_eq_sum hnodup fun scope hscope => ?_
    obtain ⟨w, hw, rfl⟩ := mem_buckets_writeAll hscope
    exact hall w hw

end Waymark.Table
