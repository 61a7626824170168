/-! # Writing JSON

Values are written over several lines with an indent of two blanks for each level. The fields of
an object keep their order.
-/

namespace Waymark.Text

/-- A value that is written as JSON. -/
inductive Json where
  | null
  | boolean (b : Bool)
  | string (text : String)
  | object (fields : List (String × Json))

namespace Json

/-- A lower-case hexadecimal digit. -/
def hexDigit (n : Nat) : Char := Nat.digitChar n

/-- Writes a character of a string: quotes, backslashes and control characters are escaped. -/
def escapeChar (c : Char) : List Char :=
  if c = '"' then ['\\', '"']
  else if c = '\\' then ['\\', '\\']
  else if c = '\x08' then ['\\', 'b']
  else if c = '\x0c' then ['\\', 'f']
  else if c = '\n' then ['\\', 'n']
  else if c = '\r' then ['\\', 'r']
  else if c = '\t' then ['\\', 't']
  else if c < ' ' then ['\\', 'u', '0', '0', hexDigit (c.toNat / 16), hexDigit (c.toNat % 16)]
  else [c]

/-- Writes a string between quotes. -/
def quote (text : String) : String :=
  String.ofList ('"' :: text.toList.flatMap escapeChar ++ ['"'])

mutual

/-- Writes a value whose first line is already indented. -/
def pretty (indent : String) : Json → String
  | null => "null"
  | boolean b => if b then "true" else "false"
  | string text => quote text
  | object [] => "\x7b\x7d"
  | object (field :: fields) =>
      "\x7b\n" ++ prettyFields (indent ++ "  ") (field :: fields) ++ "\n" ++ indent ++ "\x7d"

/-- Writes fields on lines of their own. -/
def prettyFields (indent : String) : List (String × Json) → String
  | [] => ""
  | (name, value) :: rest =>
      indent ++ quote name ++ ": " ++ pretty indent value ++
        (if rest.isEmpty then "" else ",\n") ++ prettyFields indent rest

end

end Json

end Waymark.Text
