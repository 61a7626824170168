import Mathlib.Data.List.Nodup
import Waymark.Metrics
import Waymark.Proofs.OrderedMap

/-! # What a report says

A report has one value for each label that was touched. Events leave the values under other labels
as they are. No two counters share a label, so the value of a counter is the number of its events;
the gauge of routes has the value that was set last.
-/

namespace Waymark

/-- All ways in which a request may end. -/
def Outcome.all : List Outcome :=
  [.matched .explicit, .matched .entity, .matched .route, .matched .default, .notFound, .error]

theorem Outcome.mem_all (outcome : Outcome) : outcome ∈ all := by
  cases outcome with
  | matched source => cases source <;> decide
  | notFound => decide
  | error => decide

/-- All ways to build a URL. -/
def BuildMode.all : List BuildMode := [.templated, .query, .canonical, .fallback]

theorem BuildMode.mem_all (mode : BuildMode) : mode ∈ all := by
  cases mode <;> decide

namespace Event

/-- The values under all labels after some events. -/
def tally (events : List Event) : OrderedMap String Nat :=
  events.foldl (fun acc e => acc.insert e.label (apply ((acc.get? e.label).getD 0) e)) .empty

variable {events more : List Event} {label : String}

theorem mem_report {value : Nat} :
    (label, value) ∈ report events ↔ (tally events).get? label = some value := by
  constructor
  · intro hmem
    exact OrderedMap.get?_of_mem (List.mem_mergeSort.mp hmem)
  · intro hget
    exact List.mem_mergeSort.mpr (OrderedMap.mem_of_get? hget)

theorem tally_concat (events : List Event) (e : Event) :
    tally (events ++ [e]) =
      (tally events).insert e.label (apply (((tally events).get? e.label).getD 0) e) :=
  List.foldl_append

theorem get?_tally_append (h : ∀ e ∈ more, e.label ≠ label) :
    (tally (events ++ more)).get? label = (tally events).get? label := by
  induction more using List.reverseRecOn with
  | nil => rw [List.append_nil]
  | append_singleton more e ih =>
      have hlast := h e (List.mem_append_right _ List.mem_cons_self)
      rw [← List.append_assoc, tally_concat, OrderedMap.get?_insert, if_neg hlast]
      exact ih fun e he => h e (List.mem_append_left _ he)

/-- A report has the same value under a label that no later event has. -/
theorem mem_report_append (h : ∀ e ∈ more, e.label ≠ label) (value : Nat) :
    (label, value) ∈ report (events ++ more) ↔ (label, value) ∈ report events := by
  rw [mem_report, mem_report, get?_tally_append h]

/-! ## The values of a report -/

theorem nodup_keys_report (events : List Event) : ((report events).map Prod.fst).Nodup := by
  have hperm := (List.mergeSort_perm (tally events).entries fun a b => a.1 ≤ b.1).map Prod.fst
  exact hperm.nodup_iff.mpr (tally events).nodup_keys

theorem lookup_report (events : List Event) (label : String) :
    (report events).lookup label = (tally events).get? label := by
  refine Option.ext fun value => ?_
  rw [← mem_report]
  constructor
  · intro hlookup
    obtain ⟨before, after, hreport, -⟩ := List.lookup_eq_some_iff.mp hlookup
    rw [hreport]
    exact List.mem_append_right before List.mem_cons_self
  · intro hmem
    obtain ⟨before, after, hreport⟩ := List.append_of_mem hmem
    refine List.lookup_eq_some_iff.mpr ⟨before, after, hreport, fun pair hpair => ?_⟩
    -- the label stands in one place only
    have hnodup := nodup_keys_report events
    rw [hreport, List.map_append, List.map_cons] at hnodup
    have hne := (List.nodup_append.mp hnodup).2.2 pair.1 (List.mem_map_of_mem hpair) label
      List.mem_cons_self
    exact bne_iff_ne.mpr hne.symm

/-- The value that a report has under a label. What is not touched counts as zero. -/
def value (events : List Event) (label : String) : Nat := ((report events).lookup label).getD 0

/-- The label of the gauge of routes. -/
def routesLabel : String := "router_routes"

/-- One event for each counter. -/
def counters : List Event :=
  Outcome.all.map .resolution ++ BuildMode.all.map .build ++
    [.rejectedTemplate, .reload true, .reload false]

/-- Whatever does not set the gauge is counted. -/
theorem mem_counters {e : Event} (h : ∀ count, e ≠ .routes count) : e ∈ counters := by
  unfold counters
  cases e with
  | resolution outcome =>
      exact List.mem_append_left _ (List.mem_append_left _ (List.mem_map_of_mem outcome.mem_all))
  | build mode =>
      exact List.mem_append_left _ (List.mem_append_right _ (List.mem_map_of_mem mode.mem_all))
  | rejectedTemplate => decide
  | reload succeeded => cases succeeded <;> decide
  | routes count => exact absurd rfl (h count)

theorem nodup_labels : (routesLabel :: counters.map Event.label).Nodup := by
  decide +kernel

variable {e : Event}

theorem label_ne_routesLabel (he : e ∈ counters) : e.label ≠ routesLabel := by
  intro heq
  exact (List.nodup_cons.mp nodup_labels).1 (heq ▸ List.mem_map_of_mem he)

theorem eq_of_label_eq (he : e ∈ counters) {other : Event} (h : other.label = e.label) :
    other = e := by
  refine List.inj_on_of_nodup_map (List.nodup_cons.mp nodup_labels).2 (mem_counters ?_) he h
  rintro count rfl
  exact label_ne_routesLabel he h.symm

theorem apply_of_mem_counters (he : e ∈ counters) (before : Nat) : apply before e = before + 1 := by
  cases e with
  | routes count => exact absurd rfl (label_ne_routesLabel he)
  | _ => rfl

/-- The value of a counter is the number of its events. -/
theorem value_label (he : e ∈ counters) (events : List Event) :
    value events e.label = events.count e := by
  unfold value
  rw [lookup_report]
  induction events using List.reverseRecOn with
  | nil => rfl
  | append_singleton events last ih =>
      rw [tally_concat, OrderedMap.get?_insert, List.count_append]
      by_cases hlabel : last.label = e.label
      · obtain rfl := eq_of_label_eq he hlabel
        rw [if_pos rfl, Option.getD_some, apply_of_mem_counters he, ih, List.count_singleton_self]
      · have hne : last ≠ e := fun heq => hlabel (congrArg Event.label heq)
        rw [if_neg hlabel, ih, List.count_singleton, if_neg (by simpa using hne)]
        rfl

/-- The gauge has the value that was set last. -/
theorem lookup_routesLabel_append {events more : List Event} {count : Nat}
    (hmore : ∀ e ∈ more, e ∈ counters) :
    (report (events ++ .routes count :: more)).lookup routesLabel = some count := by
  rw [List.append_cons, lookup_report,
    get?_tally_append fun e he => label_ne_routesLabel (hmore e he), tally_concat,
    OrderedMap.get?_insert]
  rfl

theorem lookup_routesLabel_append_of_counters {events more : List Event}
    (hmore : ∀ e ∈ more, e ∈ counters) :
    (report (events ++ more)).lookup routesLabel = (report events).lookup routesLabel := by
  rw [lookup_report, lookup_report,
    get?_tally_append fun e he => label_ne_routesLabel (hmore e he)]

end Event

end Waymark
