import Waymark.OrderedMap

/-! # Values of TOML

A document is a table of named values. A table remembers how it came to be, because that decides
who may still add to it: a header may open a table that is only implied, a dotted key may go on
through tables that no header names, and a table between braces is closed.
-/

namespace Waymark.Toml

/-- How a table came to be. -/
inductive Origin where
  /-- A header names it, or it is the whole document. -/
  | header
  /-- A header names a table below it. -/
  | implied
  /-- A dotted key goes through it. -/
  | dotted
  /-- It is written between braces. -/
  | inline
deriving DecidableEq

/-- A value. Floats and dates stand for themselves only: nothing that is read from a document
takes one. -/
inductive Value where
  | string (text : String)
  | integer (n : Int)
  | boolean (b : Bool)
  | float
  | dateTime
  /-- An array between brackets. -/
  | array (items : List Value)
  /-- An array of tables with headers. Keys go to the last one. -/
  | tables (earlier : List (List (String × Value))) (last : List (String × Value))
  | table (origin : Origin) (entries : List (String × Value))

/-- The entries of a table, in the order in which they were made. -/
abbrev Entries : Type := List (String × Value)

namespace Value

/-- The elements of an array of either kind. -/
def elements? : Value → Option (List Value)
  | array items => some items
  | tables earlier last => some ((earlier ++ [last]).map (table .header))
  | _ => none

/-- The entries of a table. -/
def entries? : Value → Option Entries
  | table _ entries => some entries
  | _ => none

end Value

end Waymark.Toml
