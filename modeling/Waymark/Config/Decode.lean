import Waymark.Config.Schema
import Waymark.Toml.Document

/-! # Configurations from TOML

Which value of a document sets what. Keys that mean nothing are skipped, and a value of the wrong
kind is an error. A record is a table or, with its fields in their order, an array.
-/

namespace Waymark.Config.Decode

open Toml (Value)

/-- Where the fields of a record are read from. -/
inductive Fields where
  | named (entries : Toml.Entries)
  | positional (items : List Value)

namespace Fields

/-- The fields of a value that can be a record. -/
def ofValue? (value : Value) : Option Fields :=
  (value.entries?.map named).or (value.elements?.map positional)

/-- The field with a position and a name. -/
def get? (fields : Fields) (position : Nat) (name : String) : Option Value :=
  match fields with
  | named entries => OrderedMap.find? name entries
  | positional items => items[position]?

/-- Reads a field that must be there. -/
def required {α : Type} (fields : Fields) (position : Nat) (name : String)
    (read : Value → Option α) : Option α :=
  (fields.get? position name).bind read

/-- Reads a field that has a default. -/
def withDefault {α : Type} (fields : Fields) (position : Nat) (name : String)
    (read : Value → Option α) (default : α) : Option α :=
  match fields.get? position name with
  | none => some default
  | some value => read value

/-- Reads a field that may be missing. -/
def optional {α : Type} (fields : Fields) (position : Nat) (name : String)
    (read : Value → Option α) : Option (Option α) :=
  fields.withDefault position name (fun value => (read value).map some) none

end Fields

/-- A text. -/
def text : Value → Option String
  | .string s => some s
  | _ => none

/-- A switch. -/
def flag : Value → Option Bool
  | .boolean b => some b
  | _ => none

/-- A number below a bound. -/
def number (bound : Nat) : Value → Option Nat
  | .integer n => if 0 ≤ n ∧ n < bound then some n.toNat else none
  | _ => none

/-- The id of a tenant or a locale. -/
def id32 (value : Value) : Option UInt32 := (number UInt32.size value).map UInt32.ofNat

/-- The id of an entity: a number that TOML can write. -/
def id64 (value : Value) : Option UInt64 := (number UInt64.size value).map UInt64.ofNat

/-- The elements of an array. -/
def list {α : Type} (read : Value → Option α) (value : Value) : Option (List α) :=
  value.elements?.bind fun elements => elements.mapM read

/-- The entries of a table, in order. -/
def map {α : Type} (read : Value → Option α) (value : Value) : Option (OrderedMap String α) :=
  value.entries?.bind fun entries =>
    (entries.mapM fun entry => (read entry.2).map fun a => (entry.1, a)).map .ofList

/-- Whether a value is a table or an array without content. -/
def isHollow (value : Value) : Bool :=
  value.entries?.any (·.isEmpty) || value.elements?.any (·.isEmpty)

/-- The kind of an entity: its name, or a table whose only key is the name, with nothing
below it. -/
def entityKind : Value → Option EntityKind
  | .string name => EntityKind.ofName? name
  | .table _ [(name, content)] => if isHollow content then EntityKind.ofName? name else none
  | _ => none

/-- The switches that hold for all tenants. -/
def settings (value : Value) : Option Settings := do
  let fields ← Fields.ofValue? value
  let initial := Settings.initial
  pure {
    templatedRouting := ←
      fields.withDefault 0 "templated_routing" flag initial.templatedRouting
    multiLocale := ← fields.withDefault 1 "multi_locale" flag initial.multiLocale
    defaultController := ←
      fields.withDefault 2 "default_controller" text initial.defaultController
    moduleDefaultController := ←
      fields.withDefault 3 "module_default_controller" text initial.moduleDefaultController
    notFoundController := ←
      fields.withDefault 4 "not_found_controller" text initial.notFoundController }

/-- How the program reports on itself. -/
def observability (value : Value) : Option ObservabilityConfig := do
  let fields ← Fields.ofValue? value
  let initial := ObservabilityConfig.initial
  pure {
    logLevel := ← fields.withDefault 0 "log_level" text initial.logLevel
    json := ← fields.withDefault 1 "json" flag initial.json }

/-- A tenant. -/
def tenant (value : Value) : Option TenantConfig := do
  let fields ← Fields.ofValue? value
  let initial := TenantConfig.initial
  pure {
    id := ← fields.withDefault 0 "id" id32 initial.id
    baseUri := ← fields.withDefault 1 "base_uri" text initial.baseUri
    locales := ← fields.withDefault 2 "locales" (list id32) initial.locales }

/-- A keyword of a route. -/
def keyword (value : Value) : Option Keyword := do
  let fields ← Fields.ofValue? value
  pure {
    regexp := ← fields.required 0 "regexp" text
    param := ← fields.optional 1 "param" text }

/-- A route. -/
def route (value : Value) : Option Template := do
  let fields ← Fields.ofValue? value
  pure {
    routeId := ← fields.required 0 "id" text
    rule := ← fields.required 1 "rule" text
    target := ← fields.optional 2 "controller" text
    keywords := ← fields.withDefault 3 "keywords" (map keyword) .empty
    params := ← fields.withDefault 4 "params" (map text) .empty }

/-- A custom rule. -/
def override (value : Value) : Option OverrideConfig := do
  let fields ← Fields.ofValue? value
  pure {
    routeId := ← fields.required 0 "route_id" text
    rule := ← fields.required 1 "rule" text
    tenant := ← fields.optional 2 "tenant" id32
    locale := ← fields.optional 3 "locale" id32 }

/-- A page with a URL of its own. -/
def page (value : Value) : Option PageConfig := do
  let fields ← Fields.ofValue? value
  pure {
    page := ← fields.required 0 "page" text
    url := ← fields.required 1 "url_rewrite" text
    locale := ← fields.required 2 "locale" id32
    tenant := ← fields.optional 3 "tenant" id32 }

/-- A URL of an entity. -/
def entity (value : Value) : Option EntityRecord := do
  let fields ← Fields.ofValue? value
  let path ← fields.required 0 "path" text
  let kind ← fields.required 1 "entity" entityKind
  let id ← fields.required 2 "id" id64
  let locale ← fields.required 3 "locale" id32
  let tenant ← fields.withDefault 4 "tenant" id32 TenantConfig.initial.id
  let canonical ← fields.withDefault 5 "canonical" flag true
  let page ← fields.optional 6 "page" text
  pure { scope := ⟨tenant, locale⟩, path, kind, id, canonical, page }

/-- A configuration. -/
def config (document : Toml.Entries) : Option Config := do
  let fields := Fields.named document
  let initial := Config.initial
  pure {
    settings := ← fields.withDefault 0 "settings" settings initial.settings
    observability := ← fields.withDefault 1 "observability" observability initial.observability
    tenants := ← fields.withDefault 2 "tenants" (list tenant) initial.tenants
    routes := ← fields.withDefault 3 "routes" (list route) initial.routes
    overrides := ← fields.withDefault 4 "overrides" (list override) initial.overrides
    pages := ← fields.withDefault 5 "pages" (list page) initial.pages
    entities := ← fields.withDefault 6 "entities" (list entity) initial.entities }

end Waymark.Config.Decode
