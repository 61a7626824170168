import Waymark.Pattern.Error

/-! # What can be wrong with a rule -/

namespace Waymark

/-- Why a template has no compiled route. -/
inductive CompileError where
  /-- A brace is out of place, or a placeholder names nothing. The position is in bytes. -/
  | malformedPlaceholder (rule : String) (position : Nat)
  /-- A placeholder names a keyword that the family does not have. -/
  | unknownKeyword (routeId keyword : String)
  /-- Two placeholders name the same keyword. -/
  | duplicateKeyword (routeId keyword : String)
  /-- The pattern made from the rule and its keywords is refused. -/
  | invalidPattern (routeId : String) (cause : Pattern.Error)
deriving DecidableEq

/-- Why a custom rule does not suit its route family. -/
inductive ValidationError where
  | missingKeywords (routeId : String) (keywords : List String)
  | unknownRoute (routeId : String)
deriving DecidableEq

/-- Puts a text in quotation marks. -/
def quoted (text : String) : String := "\"" ++ text ++ "\""

namespace CompileError

/-- The message of an error. -/
def message : CompileError → String
  | malformedPlaceholder rule position =>
      "malformed placeholder in rule " ++ quoted rule ++ " at byte " ++ toString position
  | unknownKeyword routeId keyword =>
      "route " ++ quoted routeId ++ " references unknown keyword " ++ quoted keyword
  | duplicateKeyword routeId keyword =>
      "route " ++ quoted routeId ++ " uses keyword " ++ quoted keyword ++ " more than once"
  | invalidPattern routeId _ => "route " ++ quoted routeId ++ " produced an invalid pattern"

end CompileError

namespace ValidationError

/-- The message of an error. -/
def message : ValidationError → String
  | missingKeywords routeId keywords =>
      "rule for route " ++ quoted routeId ++ " is missing required keyword(s): " ++
        ", ".intercalate keywords
  | unknownRoute routeId => "no default route family named " ++ quoted routeId

end ValidationError

end Waymark
