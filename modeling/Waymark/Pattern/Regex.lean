import Waymark.Pattern.Parse
import Waymark.Pattern.Elaborate
import Waymark.Pattern.Search
import Waymark.Pattern.Size

/-! # Patterns as text

A regular expression is a text together with the pattern it spells. `Regex.compile` accepts a
text if it reads as a pattern, if all its parts have a meaning and if it is not too large.
-/

namespace Waymark.Pattern

/-- A text that spells a pattern, with that pattern. -/
structure Regex where
  source : String
  expr : Expr

namespace Regex

/-- The pattern that a text spells. -/
def compile (source : String) : Except Error Regex := do
  let ast ← Ast.ofText source.toList
  let (expr, _) ← Expr.elaborate .initial ast
  if Expr.maxSize < expr.size then throw .tooLarge
  pure ⟨source, expr⟩

/-- The named groups that take part in the preferred match of a text, in the order of the groups
in the pattern. There is none if the text does not match. -/
def captures (regex : Regex) (text : String) : Option (List (String × String)) :=
  (regex.expr.search text.toList).map fun thread =>
    regex.expr.groupNames.filterMap fun name =>
      (thread.group? name).map fun found => (name, String.ofList found)

/-- The characters that mean something else than themselves in a pattern. -/
def isMeta (c : Char) : Bool :=
  ['\\', '.', '+', '*', '?', '(', ')', '|', '[', ']', '\x7b', '\x7d', '^', '$', '#', '&', '-',
    '~'].contains c

/-- The text of a pattern that matches exactly a given text. -/
def escape (text : List Char) : List Char :=
  text.flatMap fun c => if isMeta c then ['\\', c] else [c]

end Regex

end Waymark.Pattern
