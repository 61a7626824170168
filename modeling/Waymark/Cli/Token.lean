/-! # Arguments of a command line

A command knows options with a value, which have a long name and perhaps a letter, and switches
without one. `--` makes operands of all that follows, and a lone dash is an operand.
-/

namespace Waymark.Cli

/-- The options that a command knows. -/
structure OptionSet where
  /-- Options with a value: the long name, and the letter if there is one. -/
  valued : List (String × Option Char)
  /-- Options without a value, by their long name. -/
  switches : List String

/-- A part of a command line. -/
inductive Token where
  | option (name value : String)
  | switch (name : String)
  | operand (text : String)
  /-- The reader asks what the command can do. -/
  | help
  /-- An option that is unknown, lacks its value or has one that it cannot have. -/
  | malformed
deriving DecidableEq

/-- What one argument says on its own. -/
inductive Argument where
  | token (token : Token)
  /-- An option whose value is the next argument. -/
  | awaiting (name : String)
  /-- Operands only from here on. -/
  | separator

namespace OptionSet

/-- The option of a letter. -/
def ofLetter? (options : OptionSet) (letter : Char) : Option String :=
  (options.valued.find? fun option => option.2 = some letter).map Prod.fst

/-- Whether an option has a value. -/
def isValued (options : OptionSet) (name : String) : Bool :=
  options.valued.any fun option => option.1 == name

/-- The option with a long name. -/
def ofName (options : OptionSet) (name : String) (value : Option String) : Argument :=
  match options.isValued name, value with
  | true, some value => .token (.option name value)
  | true, none => .awaiting name
  | false, some _ => .token .malformed
  | false, none =>
      .token <|
        if name = "help" then .help
        else if options.switches.contains name then .switch name
        else .malformed

/-- The option with a letter, which may have its value right behind it. -/
def ofCluster (options : OptionSet) (letter : Char) (behind : List Char) : Argument :=
  match options.ofLetter? letter with
  | none => .token (if letter = 'h' then .help else .malformed)
  | some name =>
      match behind with
      | [] => .awaiting name
      | '=' :: value => .token (.option name (String.ofList value))
      | value => .token (.option name (String.ofList value))

/-- Reads one argument. -/
def read (options : OptionSet) (argument : String) : Argument :=
  match argument.toList with
  | ['-', '-'] => .separator
  | '-' :: '-' :: long =>
      let (name, behind) := long.span (· != '=')
      options.ofName (String.ofList name)
        (if behind.isEmpty then none else some (String.ofList (behind.drop 1)))
  | '-' :: letter :: behind => options.ofCluster letter behind
  | _ => .token (.operand argument)

/-- Whether an argument cannot be the value of an option before it. -/
def looksLikeOption (argument : String) : Bool :=
  match argument.toList with
  | '-' :: _ :: _ => true
  | _ => false

/-- Reads all arguments of a command. -/
def scan (options : OptionSet) : (awaiting : Option String) → List String → List Token
  | none, [] => []
  | some _, [] => [.malformed]
  | some name, argument :: rest =>
      if looksLikeOption argument then [.malformed]
      else .option name argument :: options.scan none rest
  | none, argument :: rest =>
      match options.read argument with
      | .token token => token :: options.scan none rest
      | .awaiting name => options.scan (some name) rest
      | .separator => rest.map .operand

/-- Reads the arguments before the name of a subcommand, and answers that name with the arguments
behind it. -/
def scanToSubcommand (options : OptionSet) :
    (awaiting : Option String) → List String → List Token × Option (String × List String)
  | none, [] => ([], none)
  | some _, [] => ([.malformed], none)
  | some name, argument :: rest =>
      if looksLikeOption argument then ([.malformed], none)
      else
        let (tokens, subcommand) := options.scanToSubcommand none rest
        (.option name argument :: tokens, subcommand)
  | none, argument :: rest =>
      match options.read argument with
      | .token (.operand name) => ([], some (name, rest))
      | .token token =>
          let (tokens, subcommand) := options.scanToSubcommand none rest
          (token :: tokens, subcommand)
      | .awaiting name => options.scanToSubcommand (some name) rest
      | .separator => ([.malformed], none)

end OptionSet

end Waymark.Cli
