/-! # Routing switches -/

namespace Waymark

/-- The switches that hold for all tenants. -/
structure Settings where
  /-- Friendly URLs are built and matched. -/
  templatedRouting : Bool
  /-- Request paths start with a two-letter locale segment. -/
  multiLocale : Bool
  /-- The controller of the index. -/
  defaultController : String
  /-- The controller of a module's index. -/
  moduleDefaultController : String
  /-- The controller that callers use when nothing matches. -/
  notFoundController : String
deriving DecidableEq

namespace Settings

/-- The switches where nothing is configured. -/
def initial : Settings := ⟨true, false, "index", "default", "pagenotfound"⟩

end Settings

end Waymark
