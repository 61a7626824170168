import Waymark.Build

/-! # What is counted

Everything that is counted is an event; a report counts the events of each kind. The number of
routes in the live table is a gauge: its last value holds.
-/

namespace Waymark

/-- How a request ended. -/
inductive Outcome where
  | matched (source : MatchSource)
  | notFound
  | error
deriving DecidableEq

namespace Outcome

/-- The name of an outcome. -/
def name : Outcome → String
  | matched source => source.name
  | notFound => "not_found"
  | error => "error"

/-- How a resolution ended. -/
def ofResult {ε : Type} : Except ε Resolution → Outcome
  | .ok (.matched found) => matched found.source
  | .ok .notFound => notFound
  | .error _ => error

end Outcome

/-- Something that is counted. -/
inductive Event where
  /-- A request was resolved. -/
  | resolution (outcome : Outcome)
  /-- A URL was built in some way. -/
  | build (mode : BuildMode)
  /-- A rule was left out of a table. -/
  | rejectedTemplate
  /-- A reload succeeded or failed. -/
  | reload (succeeded : Bool)
  /-- A table with so many routes went live. -/
  | routes (count : Nat)
deriving DecidableEq

namespace Event

/-- The name of the counter or gauge that an event belongs to. -/
def label : Event → String
  | resolution outcome => "router_resolutions_total outcome=" ++ outcome.name
  | build mode => "router_builds_total mode=" ++ mode.name
  | rejectedTemplate => "router_rejected_templates_total"
  | reload true => "router_table_reloads_total result=ok"
  | reload false => "router_table_reloads_total result=error"
  | routes _ => "router_routes"

/-- The value under a label after an event, from the value before. -/
def apply (before : Nat) : Event → Nat
  | routes count => count
  | _ => before + 1

/-- The labels of events with their values, in order of the labels. -/
def report (events : List Event) : List (String × Nat) :=
  let values : OrderedMap String Nat := events.foldl
    (fun acc e => acc.insert e.label (apply ((acc.get? e.label).getD 0) e)) .empty
  values.entries.mergeSort fun a b => a.1 ≤ b.1

end Event

end Waymark
