/-! # Kinds of content entities

The content store knows products, categories and the like by their own URLs. Six kinds own a
route family, whose URLs the store decides; generic pages do not.
-/

namespace Waymark

/-- What a friendly URL can point at. -/
inductive EntityKind where
  | product
  | category
  | supplier
  | manufacturer
  | cmsPage
  | cmsCategory
  | genericPage
deriving DecidableEq

namespace EntityKind

/-- All kinds. -/
def all : List EntityKind :=
  [product, category, supplier, manufacturer, cmsPage, cmsCategory, genericPage]

/-- The kinds that own a route family. -/
def canonical : List EntityKind :=
  [product, category, supplier, manufacturer, cmsPage, cmsCategory]

/-- The name of a kind. -/
def name : EntityKind → String
  | product => "product"
  | category => "category"
  | supplier => "supplier"
  | manufacturer => "manufacturer"
  | cmsPage => "cms_page"
  | cmsCategory => "cms_category"
  | genericPage => "generic_page"

/-- The kind of a name. -/
def ofName? (name : String) : Option EntityKind := all.find? fun kind => kind.name = name

/-- The route family whose URLs the kind owns. -/
def routeId? : EntityKind → Option String
  | product => some "product_rule"
  | category => some "category_rule"
  | supplier => some "supplier_rule"
  | manufacturer => some "manufacturer_rule"
  | cmsPage => some "cms_rule"
  | cmsCategory => some "cms_category_rule"
  | genericPage => none

/-- The controller that shows entities of the kind. -/
def controller? : EntityKind → Option String
  | product => some "product"
  | category => some "category"
  | supplier => some "supplier"
  | manufacturer => some "manufacturer"
  | cmsPage => some "cms"
  | cmsCategory => some "cms"
  | genericPage => none

/-- The parameter that the id of an entity is bound to. -/
def idParam : EntityKind → String
  | product => "id_product"
  | category => "id_category"
  | supplier => "id_supplier"
  | manufacturer => "id_manufacturer"
  | cmsPage => "id_cms"
  | cmsCategory => "id_cms_category"
  | genericPage => "id_meta"

/-- The kind that owns a route family. -/
def ofRouteId? (routeId : String) : Option EntityKind :=
  canonical.find? fun kind => kind.routeId? = some routeId

theorem ofName?_name (kind : EntityKind) : ofName? kind.name = some kind := by
  cases kind <;> rfl

end EntityKind

end Waymark
