import Waymark.Snapshot
import Waymark.Metrics

/-! # The live snapshot

A registry owns the current snapshot and the compile cache. A reload builds a new snapshot and
puts it in place of the current one; if the provider fails, the current one stays. Publishing
drops the compiled routes that neither the new snapshot nor any snapshot that somebody still
keeps makes use of.
-/

namespace Waymark

/-- The live snapshot with the compile cache. -/
structure Registry where
  current : Snapshot
  cache : CompileCache

namespace Registry

/-- One event for each route or custom rule that was left out. -/
def rejections (count : Nat) : List Event := List.replicate count .rejectedTemplate

/-- A registry with its first snapshot. -/
def start (provider : Provider) (settings : Settings) (entities : EntityResolver) :
    Traced Event CollaboratorError Registry :=
  let loaded := Snapshot.load provider settings entities .empty
  match loaded.outcome with
  | .ok snapshot =>
      ⟨rejections loaded.rejected ++ [.routes snapshot.table.size],
        .ok ⟨snapshot, loaded.cache⟩⟩
  | .error e => ⟨rejections loaded.rejected, .error e⟩

/-- Puts a snapshot in place of the current one. The kept snapshots are those that others hold
on to. -/
def publish (registry : Registry) (kept : List Snapshot) (snapshot : Snapshot) : Registry where
  current := snapshot
  cache := registry.cache.prune ((snapshot :: kept).flatMap fun s => s.table.handles)

/-- What a reload answers: the registry behind it, what was counted, and the outage if it
failed. -/
structure Reloaded where
  registry : Registry
  events : List Event
  outcome : Except CollaboratorError Unit

/-- Builds a snapshot with the registry's cache and publishes it. -/
def reload (registry : Registry) (kept : List Snapshot) (provider : Provider)
    (settings : Settings) (entities : EntityResolver) : Reloaded :=
  let loaded := Snapshot.load provider settings entities registry.cache
  let registry := { registry with cache := loaded.cache }
  match loaded.outcome with
  | .ok snapshot =>
      { registry := registry.publish kept snapshot
        events := rejections loaded.rejected ++ [.routes snapshot.table.size, .reload true]
        outcome := .ok () }
  | .error e =>
      { registry
        events := rejections loaded.rejected ++ [.reload false]
        outcome := .error e }

end Registry

end Waymark
