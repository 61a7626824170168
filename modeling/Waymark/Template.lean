import Waymark.OrderedMap

/-! # Route templates

The declarative half of a route: an id, a path rule with placeholders in braces, the vocabulary
of keywords that the placeholders may name, and the target that the route resolves to.
-/

namespace Waymark

/-- Named values in order. -/
abbrev Params : Type := OrderedMap String String

/-- What a placeholder may stand for. -/
structure Keyword where
  /-- The pattern of the values. -/
  regexp : String
  /-- The parameter that a matched value is bound to. A keyword without one is cosmetic: its
  value is matched and forgotten. -/
  param : Option String
deriving DecidableEq

namespace Keyword

/-- Whether a rule must supply a value for the keyword. -/
def isRequired (k : Keyword) : Bool := k.param.isSome

end Keyword

/-- The definition of a route. -/
structure Template where
  routeId : String
  rule : String
  /-- The controller that the route dispatches to. Without one, the bound parameter
  `controller` names it. -/
  target : Option String
  /-- The vocabulary of the route family, in order. Keywords are added one at a time, and adding one
  replaces the keyword of that name, so templates that are built in this way have distinct names.
  That is taken for granted here: the field could as well be a plain list that anyone may fill, but
  a vocabulary that lists a name twice is not represented. -/
  keywords : OrderedMap String Keyword
  /-- Parameters that every match carries. -/
  params : Params
deriving DecidableEq

namespace Template

/-- A template without keywords and parameters. -/
def plain (routeId rule : String) (target : Option String) : Template :=
  ⟨routeId, rule, target, .empty, .empty⟩

/-- Adds a keyword, or replaces the one of that name where it stands. -/
def withKeyword (t : Template) (name : String) (keyword : Keyword) : Template :=
  { t with keywords := t.keywords.insert name keyword }

/-- Adds a parameter that every match carries. -/
def withParam (t : Template) (name value : String) : Template :=
  { t with params := t.params.insert name value }

/-- The same route under another rule. -/
def withRule (t : Template) (rule : String) : Template := { t with rule }

/-- Targets that belong to content entities. Their generic routes do not match by structure. -/
def canonicalTargets : List String :=
  ["product", "category", "supplier", "manufacturer", "cms", "cms_category"]

/-- Whether the route is marked for a controller inside a module. -/
def isModuleDispatch (t : Template) : Bool := t.params.contains "fc" && t.params.contains "module"

/-- Whether the target belongs to content entities. -/
def hasCanonicalTarget (t : Template) : Bool := t.target.any canonicalTargets.contains

/-- Whether the route may match by structure: content targets are left to the entity resolver,
unless the route dispatches to a module. -/
def mayMatch (t : Template) : Bool := !t.hasCanonicalTarget || t.isModuleDispatch

/-- Writes one keyword of a fingerprint. -/
def keywordMark (name : String) (k : Keyword) : String :=
  name ++ "=" ++ k.regexp ++ (match k.param with | some param => ">" ++ param | none => "") ++ ";"

/-- Writes one parameter of a fingerprint. -/
def paramMark (name value : String) : String := name ++ "=" ++ value ++ ";"

/-- One text made of everything that a compiled route depends on. -/
def fingerprint (t : Template) : String :=
  t.routeId ++ "|" ++ t.rule ++ "|" ++ t.target.getD "-" ++ "|" ++
    String.join (t.keywords.entries.map fun entry => keywordMark entry.1 entry.2) ++ "|" ++
    String.join (t.params.entries.map fun entry => paramMark entry.1 entry.2)

end Template

end Waymark
