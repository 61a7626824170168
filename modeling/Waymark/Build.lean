import Waymark.Resolve

/-! # Building URLs

From a route id and parameters to a URL. In templated form the values take the places of the
placeholders and what is left over becomes a query; in query form all goes into the query of the
front script. The URL of an entity is asked from the entity resolver. An id that the table does
not know gives a URL that names it as the controller.
-/

namespace Waymark

/-- How a URL is to be built. -/
structure BuildOptions where
  /-- A friendly URL rather than a query. -/
  templated : Bool
  /-- Queries name the locale. -/
  multiLocale : Bool
  /-- What is put behind the URL as it is. -/
  anchor : String
deriving DecidableEq

/-- The ways to build a URL. -/
inductive BuildMode where
  | templated
  | query
  /-- By the entity resolver. -/
  | canonical
  /-- For an id that the table does not know. -/
  | fallback
deriving DecidableEq

namespace BuildMode

/-- The name of a mode. -/
def name : BuildMode → String
  | templated => "templated"
  | query => "query"
  | canonical => "canonical"
  | fallback => "fallback"

end BuildMode

/-- Something that building a URL does. -/
inductive BuildStep where
  /-- The way to build was chosen. -/
  | mode (chosen : BuildMode)
  /-- The entity resolver was asked. -/
  | asked (call : EntityCall)
deriving DecidableEq

namespace Build

/-- The name of the front script. -/
def frontScript : String := "index.php"

/-- Writes parameters as a query. -/
def queryText (params : List (String × String)) : String :=
  String.ofList (Text.Form.render (params.map fun p => (p.1.toList, p.2.toList)))

/-- Puts a query behind a URL. An empty query leaves no mark. -/
def withQuery (base query : String) : String := if query = "" then base else base ++ "?" ++ query

/-- The text that a segment stands for under some values. A placeholder without a value, or with
an empty one, vanishes with its affixes. -/
def segmentText (params : Params) : Rule.Segment → String
  | .literal text => text
  | .placeholder p =>
      match params.get? p.keyword with
      | some value => if value = "" then "" else p.prepend ++ value ++ p.append
      | none => ""

/-- The path of a templated URL. -/
def pathText (segments : List Rule.Segment) (params : Params) : String :=
  String.join (segments.map (segmentText params))

/-- The parameters that are no keywords of a template. -/
def leftovers (t : Template) (params : Params) : Params :=
  params.filter fun name _ => !t.keywords.contains name

/-- The friendly URL of a route. -/
def templatedUrl (route : Route) (params : Params) : String :=
  withQuery (pathText route.segments params) (queryText (leftovers route.template params).entries)

/-- The parameters of bound keywords, under the names they are bound to. -/
def boundValues (t : Template) (params : Params) : List (String × String) :=
  t.keywords.entries.filterMap fun entry =>
    match entry.2.param, params.get? entry.1 with
    | some param, some value => some (param, value)
    | _, _ => none

/-- The query of a route: what is no keyword, what every match carries, the bound values, the
controller, and the locale. Later ones replace earlier ones of the same name. -/
def queryParams (t : Template) (scope : Scope) (params : Params) (multiLocale : Bool) : Params :=
  let query := (leftovers t params).insertAll (t.params.entries ++ boundValues t params)
  let query := match t.target with
    | some target => if target = "" then query else query.insert "controller" target
    | none => query
  if multiLocale then query.insert "id_lang" (toString scope.locale.toNat) else query

/-- The URL of a route in query form. -/
def queryUrl (route : Route) (scope : Scope) (params : Params) (multiLocale : Bool) : String :=
  withQuery frontScript
    (queryText (queryParams route.template scope params multiLocale).entries)

/-- A text without white space at its ends. -/
def trimBlanks (text : String) : String :=
  let front := text.toList.dropWhile Unicode.isWhiteSpace
  String.ofList (front.reverse.dropWhile Unicode.isWhiteSpace).reverse

/-- The URL for an id that the table does not know. -/
def fallbackUrl (routeId : String) (params : Params) (templated : Bool) : String :=
  let name := trimBlanks routeId
  if name = "" ∨ name = Families.indexId then
    withQuery (if templated then "" else frontScript) (queryText params.entries)
  else
    withQuery frontScript
      (queryText ((OrderedMap.ofList [("controller", name)]).insertAll params.entries).entries)

/-- The first required keyword of a rule without an entry in the parameters. -/
def missingKeyword? (route : Route) (params : Params) : Option String :=
  (route.placeholders.find? fun p => p.required && !params.contains p.keyword).map (·.keyword)

/-- Asks the entity resolver for the URL of an entity. -/
def canonicalUrl (entities : EntityResolver) (scope : Scope) (routeId : String)
    (kind : EntityKind) (params : Params) : Traced BuildStep RoutingError String :=
  match params.get? "id" with
  | none => .fail (.missingParameter routeId "id")
  | some id =>
      ⟨[.mode .canonical, .asked (.reverse id kind scope .canonical)],
        match entities.reverse id kind scope .canonical with
        | .error e => .error (.collaborator e)
        | .ok none => .error (.unknownEntity kind.name id)
        | .ok (some url) => .ok url⟩

/-- Builds the URL of a route that the table knows. -/
def knownUrl (entities : EntityResolver) (scope : Scope) (routeId : String) (route : Route)
    (params : Params) (options : BuildOptions) : Traced BuildStep RoutingError String :=
  match if options.templated then EntityKind.ofRouteId? routeId else none with
  | some kind => canonicalUrl entities scope routeId kind params
  | none =>
      match missingKeyword? route params with
      | some keyword => .fail (.missingParameter route.routeId keyword)
      | none =>
          if options.templated then ⟨[.mode .templated], .ok (templatedUrl route params)⟩
          else ⟨[.mode .query], .ok (queryUrl route scope params options.multiLocale)⟩

end Build

/-- Builds a URL. -/
def buildUrl (table : Table) (entities : EntityResolver) (scope : Scope) (routeId : String)
    (params : Params) (options : BuildOptions) : Traced BuildStep RoutingError String :=
  let url : Traced BuildStep RoutingError String := match table.get? scope routeId with
    | none => ⟨[.mode .fallback], .ok (Build.fallbackUrl routeId params options.templated)⟩
    | some handle => Build.knownUrl entities scope routeId handle.route params options
  { url with outcome := url.outcome.map (· ++ options.anchor) }

end Waymark
