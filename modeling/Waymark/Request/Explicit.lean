import Waymark.Text.Form
import Waymark.Template

/-! # Controllers named by a request

A query may name the controller itself. Only ASCII letters, digits, underscores and hyphens make
a name. In an older form the value is a name, a question mark and one parameter.
-/

namespace Waymark.Request

/-- Whether a character may stand in the name of a controller. -/
def isNameChar (c : Char) : Bool := c.isAlphanum || c == '_' || c == '-'

/-- Whether a text is the name of a controller. -/
def isControllerName (text : List Char) : Bool := !text.isEmpty && text.all isNameChar

/-- Reads the older form: a name, a question mark, and a parameter without line breaks. -/
def legacyForm? (value : List Char) : Option (List Char × List Char × List Char) :=
  match Text.splitFirst '?' value with
  | none => none
  | some (name, rest) =>
      match Text.splitFirst '=' rest with
      | none => none
      | some (key, assigned) =>
          if isControllerName name && !key.contains '\n' && !assigned.contains '\n' then
            some (name, key, assigned)
          else none

/-- The controller that a query names, with its parameters. -/
def explicitController? (query : List Char) : Option (String × Params) :=
  match (Text.Form.parse query).find? fun pair => pair.1 = "controller".toList with
  | none => none
  | some (_, value) =>
      match legacyForm? value with
      | some (name, key, assigned) =>
          some (String.ofList name, .ofList [(String.ofList key, String.ofList assigned)])
      | none => if isControllerName value then some (String.ofList value, .empty) else none

/-- Whether a query asks for a controller inside a module. -/
def asksForModule (query : List Char) : Bool :=
  (Text.Form.parse query).any fun pair => pair.1 = "fc".toList && pair.2 = "module".toList

end Waymark.Request
