import Waymark.Cli.Token
import Waymark.Scope
import Waymark.Template
import Waymark.Text.Number
import Waymark.Text.Split

/-! # Commands

What a command line asks for. The tokens of a command line count in their order: the first fault,
or the first request for help, decides.
-/

namespace Waymark.Cli

/-- A task of the program. -/
inductive Command where
  /-- Resolves a request path. -/
  | resolve (path : String)
  /-- Builds the URL of a route. -/
  | build (routeId : String) (params : Params) (templated : Bool) (anchor : String)
  /-- Checks a custom rule against its family. -/
  | validate (routeId rule : String)
  /-- Reloads the configuration whenever it changes. -/
  | watch
deriving DecidableEq

/-- A task with what all tasks share. -/
structure Invocation where
  /-- The file with the configuration. Without one, nothing is configured. -/
  config : Option String
  scope : Scope
  command : Command
deriving DecidableEq

/-- What help can be had about. -/
inductive Topic where
  | program
  | resolve
  | build
  | validate
  | watch
  | help
deriving DecidableEq

/-- Why a command line asks for no task. -/
inductive Stop where
  | help (topic : Topic)
  | usage
deriving DecidableEq

/-- The number of a tenant or locale. A sign may stand before the digits. -/
def number? (text : String) : Option UInt32 :=
  match text.toList with
  | '-' :: digits => if digits ≠ [] ∧ digits.all (· == '0') then some 0 else none
  | digits => (Text.numeral? UInt32.size digits).map UInt32.ofNat

/-- A parameter that is written as its name, an equals sign and its value. -/
def param? (text : String) : Option (String × String) :=
  (Text.splitFirst '=' text.toList).map fun parts =>
    (String.ofList parts.1, String.ofList parts.2)

/-- Gives an option its value, which it can have only once. -/
def setOnce {α : Type} (current : Option α) (value : Option α) : Except Stop (Option α) :=
  match current, value with
  | none, some value => .ok (some value)
  | _, _ => .error .usage

/-! ## Options before the subcommand -/

/-- The options that hold for all tasks, as far as they are given. -/
structure Globals where
  config : Option String
  tenant : Option UInt32
  locale : Option UInt32

namespace Globals

/-- No options. -/
def initial : Globals := ⟨none, none, none⟩

/-- The options that hold for all tasks. -/
def options : OptionSet where
  valued := [("config", some 'c'), ("tenant", some 't'), ("locale", some 'l')]
  switches := []

/-- Takes the next token into account. -/
def step (g : Globals) : Token → Except Stop Globals
  | .option "config" path => do
      pure { g with config := ← setOnce g.config (if path.isEmpty then none else some path) }
  | .option "tenant" text => do pure { g with tenant := ← setOnce g.tenant (number? text) }
  | .option "locale" text => do pure { g with locale := ← setOnce g.locale (number? text) }
  | .help => .error (.help .program)
  | _ => .error .usage

end Globals

/-! ## Arguments of the subcommands -/

/-- Takes operands in order, at most so many. -/
def operands (topic : Topic) (most : Nat) (taken : List String) :
    Token → Except Stop (List String)
  | .operand text => if taken.length < most then .ok (taken ++ [text]) else .error .usage
  | .help => .error (.help topic)
  | _ => .error .usage

/-- The operands of a subcommand without options. -/
def onlyOperands (topic : Topic) (count : Nat) (arguments : List String) :
    Except Stop (List String) :=
  ((OptionSet.mk [] []).scan none arguments).foldlM (operands topic count) []

/-- What is given to build a URL. -/
structure BuildArguments where
  operands : List String
  params : List (String × String)
  query : Bool
  anchor : Option String

namespace BuildArguments

/-- The options for building a URL. -/
def options : OptionSet where
  valued := [("param", some 'p'), ("anchor", none)]
  switches := ["query"]

/-- Takes the next token into account. -/
def step (a : BuildArguments) : Token → Except Stop BuildArguments
  | .option "param" text =>
      match param? text with
      | some param => .ok { a with params := a.params ++ [param] }
      | none => .error .usage
  | .option "anchor" text => do pure { a with anchor := ← setOnce a.anchor (some text) }
  | .switch "query" => if a.query then .error .usage else .ok { a with query := true }
  | token => do pure { a with operands := ← Cli.operands .build 1 a.operands token }

end BuildArguments

/-- Reads the arguments behind the name that asks for help on a subcommand. -/
def helpTopic : List String → Stop
  | [] => .help .program
  | ["resolve"] => .help .resolve
  | ["build"] => .help .build
  | ["validate"] => .help .validate
  | ["watch"] => .help .watch
  | ["help"] => .help .help
  | _ => .usage

/-- Reads a subcommand. -/
def subcommand (name : String) (arguments : List String) : Except Stop Command :=
  match name with
  | "resolve" => do
      match ← onlyOperands .resolve 1 arguments with
      | [path] => pure (.resolve path)
      | _ => throw .usage
  | "build" => do
      let a ← (BuildArguments.options.scan none arguments).foldlM BuildArguments.step
        ⟨[], [], false, none⟩
      match a.operands with
      | [routeId] => pure (.build routeId (.ofList a.params) (!a.query) (a.anchor.getD ""))
      | _ => throw .usage
  | "validate" => do
      match ← onlyOperands .validate 2 arguments with
      | [routeId, rule] => pure (.validate routeId rule)
      | _ => throw .usage
  | "watch" => do
      let _ ← onlyOperands .watch 0 arguments
      pure .watch
  | "help" => throw (helpTopic arguments)
  | _ => throw .usage

/-- Reads a command line. -/
def parse (arguments : List String) : Except Stop Invocation := do
  let (tokens, named) := Globals.options.scanToSubcommand none arguments
  let g ← tokens.foldlM Globals.step .initial
  match named with
  | none => throw .usage
  | some (name, rest) => do
      let command ← subcommand name rest
      pure ⟨g.config, ⟨g.tenant.getD 1, g.locale.getD 1⟩, command⟩

end Waymark.Cli
