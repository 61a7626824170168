import Waymark.Route
import Waymark.Scope

/-! # The compile cache

The same template is compiled once for each tenant and shared by all locales and by later
reloads, as long as somebody uses it. Entries go by tenant and fingerprint. Since sharing is
visible, a compiled route comes as a handle: two handles with the same slot are one object.
-/

namespace Waymark

/-- A compiled route as an object that can be shared. -/
structure Handle where
  route : Route
  /-- Tells objects of one cache apart. A route that was compiled outside a cache has none. -/
  slot : Option Nat

namespace Handle

/-- Whether two handles are the same object of a cache. -/
def same (a b : Handle) : Bool := a.slot.isSome && a.slot == b.slot

end Handle

/-- Compiled routes by tenant and fingerprint. -/
structure CompileCache where
  entries : OrderedMap (TenantId × String) Handle
  /-- The slot of the next new entry. Slots are never used again. -/
  nextSlot : Nat

namespace CompileCache

/-- The cache without entries. -/
def empty : CompileCache := ⟨.empty, 0⟩

/-- The number of entries. -/
def size (cache : CompileCache) : Nat := cache.entries.size

/-- The entry of a tenant for a template. -/
def find? (cache : CompileCache) (tenant : TenantId) (t : Template) : Option Handle :=
  cache.entries.get? (tenant, t.fingerprint)

/-- The compiled route of a template: the entry if there is one, else a new one. A template that
does not compile leaves the cache as it is. -/
def get (cache : CompileCache) (tenant : TenantId) (t : Template) :
    Except CompileError (Handle × CompileCache) :=
  match cache.find? tenant t with
  | some handle => .ok (handle, cache)
  | none =>
      match Route.compile t with
      | .error e => .error e
      | .ok route =>
          let handle : Handle := ⟨route, some cache.nextSlot⟩
          .ok (handle, ⟨cache.entries.insert (tenant, t.fingerprint) handle, cache.nextSlot + 1⟩)

/-- Drops the entries that are none of the handles in use. -/
def prune (cache : CompileCache) (inUse : List Handle) : CompileCache :=
  { cache with entries := cache.entries.filter fun _ handle => inUse.any handle.same }

end CompileCache

/-- A cache with the handles that are held by name. -/
structure HeldCache where
  cache : CompileCache
  held : OrderedMap String Handle

namespace HeldCache

/-- A new cache, of which nothing is held. -/
def empty : HeldCache := ⟨.empty, .empty⟩

/-- Gets a compiled route. -/
def get (h : HeldCache) (tenant : TenantId) (t : Template) :
    Except CompileError (Handle × HeldCache) :=
  (h.cache.get tenant t).map fun answer => (answer.1, { h with cache := answer.2 })

/-- The names under which an object is held. -/
def namesOf (h : HeldCache) (handle : Handle) : List String :=
  (h.held.entries.filter fun entry => entry.2.same handle).map Prod.fst

/-- Holds an object under a name and releases what the name held. -/
def hold (h : HeldCache) (name : String) (handle : Handle) : HeldCache :=
  { h with held := h.held.insert name handle }

/-- Releases what a name holds. -/
def release (h : HeldCache) (name : String) : HeldCache :=
  { h with held := h.held.erase name }

/-- Drops the entries that nobody holds. -/
def prune (h : HeldCache) : HeldCache := { h with cache := h.cache.prune h.held.values }

end HeldCache

end Waymark
