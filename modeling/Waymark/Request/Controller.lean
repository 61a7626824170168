import Waymark.Text.Split

/-! # Names of controllers

A controller inside a module is written `module-`, the name of the module, a hyphen and the name
of the controller. Case does not count; two characters outside ASCII fold to letters and so are
word characters.
-/

namespace Waymark.Request

/-- Whether a character is a letter, a digit or an underscore up to case. -/
def isWordChar (c : Char) : Bool := c.isAlphanum || c == '_' || c == '\u017f' || c == '\u212a'

/-- Splits a text at its last hyphen. -/
def splitLastHyphen : List Char → Option (List Char × List Char)
  | [] => none
  | c :: rest =>
      match splitLastHyphen rest with
      | some (before, after) => some (c :: before, after)
      | none => if c = '-' then some ([], rest) else none

/-- Reads the names of a module and a controller with a hyphen between them. -/
def moduleNames? (text : List Char) : Option (List Char × List Char) :=
  if text.all fun c => isWordChar c || c == '-' then
    match splitLastHyphen text with
    | some (c :: before, d :: after) => some (c :: before, d :: after)
    | _ => none
  else none

/-- Reads the longest ending of a text that has the module form. -/
def splitModule? : List Char → Option (List Char × List Char)
  | [] => none
  | c :: rest =>
      match (Text.dropLeading? "module-".toList (c :: rest)).bind moduleNames? with
      | some names => some names
      | none => splitModule? rest

/-- The name of a controller without hyphens. -/
def controllerName (name : String) : String := String.ofList (name.toList.filter (· ≠ '-'))

end Waymark.Request
