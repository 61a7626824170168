import Waymark.Template

/-! # The built-in route families

In order of priority: a request path is tried against them from first to last. The layered
family matches every path that the category family does, so it stands at the end.
-/

namespace Waymark.Families

/-- Numbers. -/
def number : String := "[0-9]+"

/-- Words of letters of any script, digits, symbols, underscores and hyphens. -/
def slugText : String := "[_a-zA-Z0-9\\pL\\pS-]*"

/-- Words of letters of any script, digits, underscores and hyphens. -/
def wordText : String := "[_a-zA-Z0-9\\pL-]*"

/-- Nonempty words of ASCII letters, digits, underscores and hyphens. -/
def slug : String := "[_a-zA-Z0-9-]+"

/-- A keyword whose value is bound to a parameter. -/
def bound (regexp param : String) : Keyword := ⟨regexp, some param⟩

/-- A keyword whose value is forgotten. -/
def cosmetic (regexp : String) : Keyword := ⟨regexp, none⟩

/-- Adds the two keywords that only embellish a URL. -/
def withMeta (t : Template) : Template :=
  (t.withKeyword "meta_keywords" (cosmetic wordText)).withKeyword "meta_title" (cosmetic wordText)

/-- A family of routes to one kind of content entity. -/
def entityFamily (routeId rule target idParam : String) : Template :=
  withMeta <| ((Template.plain routeId rule (some target)).withKeyword "id" (bound number idParam)
    ).withKeyword "rewrite" (cosmetic slugText)

/-- The family of category routes. -/
def category : Template :=
  entityFamily "category_rule" "\x7bid\x7d-\x7brewrite\x7d" "category" "id_category"

/-- The family of supplier routes. -/
def supplier : Template :=
  entityFamily "supplier_rule" "\x7bid\x7d__\x7brewrite\x7d" "supplier" "id_supplier"

/-- The family of manufacturer routes. -/
def manufacturer : Template :=
  entityFamily "manufacturer_rule" "\x7bid\x7d_\x7brewrite\x7d" "manufacturer" "id_manufacturer"

/-- The family of content page routes. -/
def contentPage : Template :=
  entityFamily "cms_rule" "content/\x7bid\x7d-\x7brewrite\x7d" "cms" "id_cms"

/-- The family of content category routes. -/
def contentCategory : Template :=
  entityFamily "cms_category_rule" "content/category/\x7bid\x7d-\x7brewrite\x7d" "cms"
    "id_cms_category"

/-- The family of routes to controllers inside modules. -/
def moduleFamily : Template :=
  (((Template.plain "module" "module/\x7bmodule\x7d\x7b/:controller\x7d" none).withKeyword
    "module" (bound slug "module")).withKeyword
    "controller" (bound slug "controller")).withParam "fc" "module"

/-- The family of product routes. -/
def product : Template :=
  let front := Template.plain "product_rule"
    "\x7bcategory:/\x7d\x7bid\x7d-\x7brewrite\x7d\x7b-:ean13\x7d.html" (some "product")
  withMeta <| [
    ("id", bound number "id_product"),
    ("rewrite", cosmetic slugText),
    ("ean13", cosmetic "[0-9\\pL]*"),
    ("category", cosmetic wordText),
    ("categories", cosmetic "[/_a-zA-Z0-9\\pL-]*"),
    ("reference", cosmetic wordText),
    ("manufacturer", cosmetic wordText),
    ("supplier", cosmetic wordText)].foldl (fun t entry => t.withKeyword entry.1 entry.2) front

/-- The family of category routes narrowed by filters. -/
def layered : Template :=
  let front := Template.plain "layered_rule" "\x7bid\x7d-\x7brewrite\x7d\x7b/:selected_filters\x7d"
    (some "category")
  withMeta <| [
    ("id", bound number "id_category"),
    ("selected_filters", bound ".*" "selected_filters"),
    ("rewrite", cosmetic slugText)].foldl (fun t entry => t.withKeyword entry.1 entry.2) front

/-- All built-in families. -/
def builtIn : List Template :=
  [category, supplier, manufacturer, contentPage, contentCategory, moduleFamily, product, layered]

/-- The id of the route for the empty path. -/
def indexId : String := "index"

/-- The route for the empty path, to be tried after all others. -/
def index : Template := .plain indexId "" (some indexId)

end Waymark.Families
