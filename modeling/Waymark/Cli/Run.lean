import Waymark.Cli.Help
import Waymark.Config.Load
import Waymark.Registry
import Waymark.Text.Json

/-! # Running commands

A run loads the configuration, if one is given, builds the first snapshot, and answers from it.
What is not found is an answer; a configuration that cannot be used and a URL that cannot be
built are failures.
-/

namespace Waymark.Cli

/-- What a run prints and how it ends. -/
structure Report where
  exitCode : UInt32
  stdout : String
  stderr : String
deriving DecidableEq

namespace Report

/-- A run that answers. -/
def answer (stdout : String) : Report := ⟨0, stdout, ""⟩

/-- A run that fails. -/
def failure (message : String) : Report := ⟨1, "", "Error: " ++ message ++ "\n"⟩

end Report

/-- What is printed instead of running a task. -/
def Stop.report : Stop → Report
  | help topic => .answer (unlines topic.lines)
  | usage => ⟨2, "", usageText⟩

open Text (Json)

/-- The fields of a resolution. -/
def resolutionFields : Resolution → List (String × Json)
  | .notFound => [("outcome", .string "not_found")]
  | .matched found => [
      ("outcome", .string "matched"),
      ("route_id", .string found.routeId),
      ("controller", .string found.controller),
      ("params", .object (found.params.entries.map fun param => (param.1, .string param.2))),
      ("module_dispatch", .boolean found.moduleDispatch),
      ("locale_code", (found.localeCode.map Json.string).getD .null),
      ("source", .string found.source.name)]

/-- Reports a resolution. A request that nothing matches is answered with the controller to use
instead. -/
def reportResolution (settings : Settings) (resolution : Resolution) : Report where
  exitCode := 0
  stdout := (Json.object (resolutionFields resolution)).pretty "" ++ "\n"
  stderr :=
    match resolution with
    | .notFound => "not found; fallback controller: " ++ settings.notFoundController ++ "\n"
    | .matched _ => ""

/-- What a command line comes to. -/
inductive Task where
  | done (report : Report)
  /-- Reloads a registry from a file whenever the file changes. -/
  | watching (path : String) (registry : Registry)

/-- Builds the first snapshot of a configuration. -/
def startRegistry (config : Config) : Except CollaboratorError Registry :=
  (Registry.start (Provider.ofConfig config) config.settings
    (EntityResolver.ofRecords config.entities)).outcome

namespace Invocation

/-- The configuration of a run. -/
def loadConfig (i : Invocation) (content : Option ByteArray) : Except ConfigError Config :=
  match i.config with
  | none => .ok .initial
  | some _ => Config.load content

/-- Answers from the snapshot of a registry. -/
def perform (i : Invocation) (registry : Registry) : Task :=
  let snapshot := registry.current
  match i.command with
  | .resolve path =>
      .done <| match (snapshot.resolve (snapshot.request path i.scope)).outcome with
        | .ok resolution => reportResolution snapshot.settings resolution
        | .error e => .failure e.message
  | .build routeId params templated anchor =>
      .done <| match (snapshot.build i.scope routeId params templated anchor).outcome with
        | .ok url => .answer (url ++ "\n")
        | .error e => .failure e.message
  | .validate routeId rule =>
      .done <| match snapshot.validateRule i.scope.tenant routeId rule with
        | .ok () => .answer "ok\n"
        | .error e => ⟨1, "", e.message ++ "\n"⟩
  | .watch =>
      match i.config with
      | some path => .watching path registry
      | none => .done (.failure "watch needs --config")

/-- Runs a task, given the content of its configuration file. -/
def run (i : Invocation) (content : Option ByteArray) : Task :=
  match i.loadConfig content with
  | .error e => .done (.failure e.message)
  | .ok config =>
      match startRegistry config with
      | .error e => .done (.failure e.message)
      | .ok registry => i.perform registry

end Invocation

/-- Reloads a registry from the content of a configuration file. The registry stays as it is if
the configuration cannot be used. -/
def reload (registry : Registry) (content : Option ByteArray) : Registry :=
  match Config.load content with
  | .error _ => registry
  | .ok config =>
      (registry.reload [] (Provider.ofConfig config) config.settings
        (EntityResolver.ofRecords config.entities)).registry

end Waymark.Cli
