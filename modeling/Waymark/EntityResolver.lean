import Waymark.Entity
import Waymark.RoutingError
import Waymark.Scope
import Waymark.Text.Number
import Waymark.Text.Split

/-! # Resolving entity URLs

The content store decides the URLs of entities. It is asked first on every request, and again
when the URL of an entity is built. Any of its answers may be an outage. `EntityResolver.ofRecords`
is a store with a fixed list of URLs.
-/

namespace Waymark

/-- An entity that a path leads to. -/
structure EntityRef where
  kind : EntityKind
  id : UInt64
deriving DecidableEq

/-- Which of an entity's URLs is wanted. -/
inductive UrlVariant where
  | canonical
  /-- A former URL that redirects. -/
  | redirect
deriving DecidableEq

/-- A question to an entity resolver. -/
inductive EntityCall where
  | lookup (path : String) (scope : Scope)
  | reverse (id : String) (kind : EntityKind) (scope : Scope) (variant : UrlVariant)
  | pageController (id : UInt64) (scope : Scope)
deriving DecidableEq

/-- The content store, as far as routing asks it. Paths have no leading slash. -/
structure EntityResolver where
  /-- The entity at a path. -/
  lookup : String → Scope → Except CollaboratorError (Option EntityRef)
  /-- The URL of an entity whose id is given as text. -/
  reverse : String → EntityKind → Scope → UrlVariant → Except CollaboratorError (Option String)
  /-- The controller of a generic page. -/
  pageController : UInt64 → Scope → Except CollaboratorError (Option String)

/-- A URL in a fixed list. -/
structure EntityRecord where
  scope : Scope
  path : String
  kind : EntityKind
  id : UInt64
  /-- The URL to build; otherwise one that redirects to it. -/
  canonical : Bool
  /-- The controller of a generic page. -/
  page : Option String
deriving DecidableEq

namespace EntityRecord

/-- A path without slashes at its ends. -/
def trimSlashes (path : String) : String := String.ofList (Text.trimBoth '/' path.toList)

/-- Whether the record is for a path, up to slashes at its ends. -/
def isAt (r : EntityRecord) (path : String) (scope : Scope) : Bool :=
  r.scope = scope && trimSlashes r.path = trimSlashes path

/-- Whether the record is a URL of an entity in a variant. -/
def isUrlOf (r : EntityRecord) (id : UInt64) (kind : EntityKind) (scope : Scope)
    (variant : UrlVariant) : Bool :=
  r.scope = scope && r.kind = kind && r.id = id && r.canonical == (variant == .canonical)

/-- Whether the record is a generic page. -/
def isPage (r : EntityRecord) (id : UInt64) (scope : Scope) : Bool :=
  r.scope = scope && r.kind = .genericPage && r.id = id

end EntityRecord

namespace EntityResolver

/-- The number that the text of an id spells. -/
def idOfText? (id : String) : Option UInt64 :=
  (Text.numeral? UInt64.size id.toList).map UInt64.ofNat

/-- The resolver of a fixed list: the first record that fits answers. -/
def ofRecords (records : List EntityRecord) : EntityResolver where
  lookup path scope :=
    .ok <| (records.find? (·.isAt path scope)).map fun r => ⟨r.kind, r.id⟩
  reverse id kind scope variant :=
    .ok <| (idOfText? id).bind fun id =>
      (records.find? (·.isUrlOf id kind scope variant)).map fun r =>
        EntityRecord.trimSlashes r.path
  pageController id scope :=
    .ok <| (records.find? (·.isPage id scope)).bind EntityRecord.page

end EntityResolver

end Waymark
