import Waymark.Config.Decode
import Waymark.Config.Validate

/-! # Loading a configuration

From the content of a file to a configuration without problems.
-/

namespace Waymark

/-- Why a configuration cannot be used. -/
inductive ConfigError where
  /-- There is no file, or it is no text. -/
  | io
  /-- The text is not TOML, or sets something to what it cannot be. -/
  | parse
  /-- Something is wrong with what the text says. -/
  | validation (problems : List ConfigProblem)
deriving DecidableEq

namespace ConfigError

/-- The message of an error. -/
def message : ConfigError → String
  | io => "IO error"
  | parse => "Parse error"
  | validation problems => ConfigProblem.messages problems

end ConfigError

namespace Config

/-- The configuration that a text spells, not yet checked. -/
def ofText? (text : String) : Option Config := (Toml.parse text.toList).bind Decode.config

/-- Reads and checks a configuration. -/
def parse (text : String) : Except ConfigError Config :=
  match ofText? text with
  | none => .error .parse
  | some config =>
      match config.validate with
      | .error problems => .error (.validation problems)
      | .ok () => .ok config

/-- Reads and checks the content of a file, which is missing if there is no such file. -/
def load (content : Option ByteArray) : Except ConfigError Config :=
  match content.bind String.fromUTF8? with
  | none => .error .io
  | some text => parse text

end Config

end Waymark
