/-! # Tenants, locales and scopes

Routes are kept apart for every pair of a tenant and a locale.
-/

namespace Waymark

/-- The number of a tenant. -/
abbrev TenantId : Type := UInt32

/-- The number of a locale. -/
abbrev LocaleId : Type := UInt32

/-- The pair that a set of routes belongs to. -/
structure Scope where
  tenant : TenantId
  locale : LocaleId
deriving DecidableEq

namespace Scope

/-- Scopes in order of tenant, then locale. -/
def le (a b : Scope) : Bool :=
  a.tenant < b.tenant || (a.tenant == b.tenant && a.locale ≤ b.locale)

end Scope

end Waymark
