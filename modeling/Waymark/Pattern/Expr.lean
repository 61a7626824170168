import Waymark.Pattern.CharSet

/-! # Patterns and what they match

A pattern is read over positions of a text: `Steps e s t` says that the pattern `e` leads from
the thread `s` to the thread `t`, where a thread is a position with the groups remembered so
far. The relation says nothing about preference among several ways to match; that is the
business of the search, which finds one of them.
-/

namespace Waymark.Pattern

/-- A condition on a position of the text. -/
inductive Anchor where
  | textStart
  | textEnd
  /-- The start of a line; carriage returns may count as line ends too. -/
  | lineStart (carriageReturn : Bool)
  | lineEnd (carriageReturn : Bool)
  /-- A change between word and other characters; words may be of ASCII characters only. -/
  | wordBoundary (unicode : Bool)
  | noWordBoundary (unicode : Bool)
  | wordStart (unicode : Bool)
  | wordEnd (unicode : Bool)
  | wordStartHalf (unicode : Bool)
  | wordEndHalf (unicode : Bool)
deriving DecidableEq

/-- A pattern. -/
inductive Expr where
  /-- Matches the empty text. -/
  | empty
  /-- Matches the empty text where a condition holds. -/
  | anchor (kind : Anchor)
  /-- Matches one character of a set. -/
  | one (set : CharSet)
  /-- Remembers under a name what its body matches. -/
  | capture (name : String) (body : Expr)
  | cat (a b : Expr)
  /-- Matches as either does; the first is preferred. -/
  | alt (a b : Expr)
  /-- Matches as between `low` and `high` copies of its body do. Many copies are preferred if it
  is greedy, few otherwise. -/
  | repeated (body : Expr) (low : Nat) (high : Option Nat) (greedy : Bool)

/-- A position in a text: how many characters lie before it, the last of them, and what
follows. -/
structure Cursor where
  index : Nat
  before : Option Char
  rest : List Char

namespace Cursor

/-- The position at the front of a text. -/
def start (text : List Char) : Cursor := ⟨0, none, text⟩

/-- The positions of a text from a cursor on. -/
def positions : (index : Nat) → (before : Option Char) → List Char → List Cursor
  | index, before, [] => [⟨index, before, []⟩]
  | index, before, c :: rest => ⟨index, before, c :: rest⟩ :: positions (index + 1) (some c) rest

/-- The text between a position and a later one. -/
def textUntil (first last : Cursor) : List Char := first.rest.take (last.index - first.index)

end Cursor

namespace Anchor

/-- Whether a character counts as part of a word. -/
def isWordChar (unicode : Bool) (c : Char) : Bool :=
  if unicode then Unicode.word.contains c else CharSet.asciiWord.contains c

/-- Whether a condition holds at a position. -/
def holds (kind : Anchor) (position : Cursor) : Bool :=
  let after := position.rest.head?
  let wordBefore (unicode : Bool) := position.before.any (isWordChar unicode)
  let wordAfter (unicode : Bool) := after.any (isWordChar unicode)
  match kind with
  | textStart => position.before.isNone
  | textEnd => after.isNone
  | lineStart false => position.before.all (· == '\n')
  | lineStart true =>
      position.before.all fun c => c == '\n' || (c == '\r' && after != some '\n')
  | lineEnd false => after.all (· == '\n')
  | lineEnd true =>
      after.all fun c => c == '\r' || (c == '\n' && position.before != some '\r')
  | wordBoundary unicode => wordBefore unicode != wordAfter unicode
  | noWordBoundary unicode => wordBefore unicode == wordAfter unicode
  | wordStart unicode => !wordBefore unicode && wordAfter unicode
  | wordEnd unicode => wordBefore unicode && !wordAfter unicode
  | wordStartHalf unicode => !wordBefore unicode
  | wordEndHalf unicode => !wordAfter unicode

end Anchor

/-- A position together with the groups remembered on the way to it. -/
structure Thread where
  cursor : Cursor
  /-- Where each group began and ended when it matched last. -/
  groups : List (String × Cursor × Cursor)

namespace Thread

/-- How many characters lie before a thread. -/
def index (t : Thread) : Nat := t.cursor.index

/-- The thread behind the next character, if that belongs to a set. -/
def advance? (set : CharSet) (t : Thread) : Option Thread :=
  match t.cursor.rest with
  | [] => none
  | c :: rest =>
      if set.contains c then some ⟨⟨t.cursor.index + 1, some c, rest⟩, t.groups⟩ else none

/-- Remembers under a name that a group matched from an earlier position to the thread. -/
def remember (name : String) (origin : Cursor) (t : Thread) : Thread :=
  { t with groups := (name, origin, t.cursor) :: t.groups.filter (·.1 ≠ name) }

/-- The text that a group matched last. -/
def group? (t : Thread) (name : String) : Option (List Char) :=
  (t.groups.lookup name).map fun ends => ends.1.textUntil ends.2

end Thread

namespace Expr

/-- The names of the groups, in the order of their opening parentheses. -/
def groupNames : Expr → List String
  | capture name body => name :: body.groupNames
  | repeated body _ _ _ => body.groupNames
  | cat a b => a.groupNames ++ b.groupNames
  | alt a b => a.groupNames ++ b.groupNames
  | _ => []

/-- The ways in which a pattern leads from one thread to another. -/
inductive Steps : Expr → Thread → Thread → Prop
  | empty (t : Thread) : Steps empty t t
  | anchor {kind : Anchor} {t : Thread} (holds : kind.holds t.cursor = true) :
      Steps (anchor kind) t t
  | one {set : CharSet} {s t : Thread} (step : s.advance? set = some t) : Steps (one set) s t
  | capture {name : String} {body : Expr} {s t : Thread} (inner : Steps body s t) :
      Steps (capture name body) s (t.remember name s.cursor)
  | cat {a b : Expr} {s t u : Thread} (first : Steps a s t) (second : Steps b t u) :
      Steps (cat a b) s u
  | altLeft {a b : Expr} {s t : Thread} (left : Steps a s t) : Steps (alt a b) s t
  | altRight {a b : Expr} {s t : Thread} (right : Steps b s t) : Steps (alt a b) s t
  | done {body : Expr} {high : Option Nat} {greedy : Bool} (t : Thread) :
      Steps (repeated body 0 high greedy) t t
  | round {body : Expr} {low : Nat} {high : Option Nat} {greedy : Bool} {s t u : Thread}
      (room : high ≠ some 0) (first : Steps body s t)
      (rest : Steps (repeated body (low - 1) (high.map (· - 1)) greedy) t u) :
      Steps (repeated body low high greedy) s u

end Expr

end Waymark.Pattern
