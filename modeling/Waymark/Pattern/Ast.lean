/-! # The written form of a pattern

The tree that the text of a pattern spells, before flags are applied and names of properties
are looked up. Sequences and alternatives lean to the right, so that a sequence of three is
`cat a (cat b c)`; a group is always marked by a `group` node.
-/

namespace Waymark.Pattern

/-- A switch that a pattern can set for part of itself. -/
inductive Flag where
  | caseInsensitive
  | multiLine
  | dotMatchesNewline
  | swapGreed
  | unicode
  | carriageReturn
  | verbose
deriving DecidableEq

/-- A classic class of characters. -/
inductive Perl where
  | digit
  | space
  | word
deriving DecidableEq

/-- A named class of ASCII characters. -/
inductive Posix where
  | alnum | alpha | ascii | blank | cntrl | digit | graph | lower | print | punct | space
  | upper | word | xdigit
deriving DecidableEq

/-- How a property is asked for. -/
inductive PropertyName where
  /-- By a bare name. -/
  | named (name : String)
  /-- By the name of a property and one of its values. -/
  | valued (name value : String)
deriving DecidableEq

/-- How two sets in brackets are combined. -/
inductive SetOp where
  | inter
  | diff
  | symmDiff
deriving DecidableEq

/-- The inside of a pair of brackets. -/
inductive SetAst where
  | empty
  /-- A character; the flag tells that it was written as two hexadecimal digits. -/
  | literal (c : Char) (isByte : Bool)
  | range (low high : Char) (lowIsByte highIsByte : Bool)
  | posix (kind : Posix) (negated : Bool)
  | perl (kind : Perl) (negated : Bool)
  | property (name : PropertyName) (negated : Bool)
  | bracketed (negated : Bool) (inner : SetAst)
  | union (a b : SetAst)
  | op (kind : SetOp) (a b : SetAst)

/-- A condition on a position of the text. -/
inductive Assertion where
  | lineStart
  | lineEnd
  | textStart
  | textEnd
  | wordBoundary
  | noWordBoundary
  | wordStart
  | wordEnd
  | wordStartHalf
  | wordEndHalf
deriving DecidableEq

/-- What a pair of parentheses is for. -/
inductive GroupKind where
  /-- Remembers what it matched, under a name if it has one. -/
  | capture (name : Option String)
  /-- Only groups, perhaps under other flags. -/
  | plain (flags : List (Flag × Bool))
deriving DecidableEq

/-- A pattern as written. -/
inductive Ast where
  | empty
  /-- A character; the flag tells that it was written as two hexadecimal digits. -/
  | literal (c : Char) (isByte : Bool)
  | dot
  | assertion (kind : Assertion)
  | perl (kind : Perl) (negated : Bool)
  | property (name : PropertyName) (negated : Bool)
  | bracketed (negated : Bool) (inner : SetAst)
  /-- A setting of flags for the rest of the group. -/
  | flags (items : List (Flag × Bool))
  | group (kind : GroupKind) (body : Ast)
  | repeated (body : Ast) (low : Nat) (high : Option Nat) (greedy : Bool)
  | cat (a b : Ast)
  | alt (a b : Ast)

namespace SetAst

/-- Adds an item to a union. -/
def add : SetAst → SetAst → SetAst
  | empty, item => item
  | items, item => union items item

/-- How deep a set is nested. A union of many items counts once: `inUnion` says that it has been
counted already. -/
def depth (inUnion : Bool) : SetAst → Nat
  | union a b => (if inUnion then 0 else 1) + max (a.depth true) (b.depth false)
  | bracketed _ inner => 1 + inner.depth false
  | op _ a b => 1 + max (a.depth false) (b.depth false)
  | _ => 0

end SetAst

/-- What the enclosing node of a tree is, as far as counting its depth goes. -/
inductive Spine where
  | other
  | sequence
  | choice
deriving DecidableEq

namespace Ast

/-- Puts an item in front of a sequence. -/
def append (item : Ast) : Ast → Ast
  | empty => item
  | rest => cat item rest

/-- The names of the capturing groups, in the order of their opening parentheses. -/
def groupNames : Ast → List String
  | group (.capture (some name)) body => name :: body.groupNames
  | group _ body => body.groupNames
  | repeated body _ _ _ => body.groupNames
  | cat a b => a.groupNames ++ b.groupNames
  | alt a b => a.groupNames ++ b.groupNames
  | _ => []

/-- How deep a pattern is nested. A sequence of many items counts once, and so does a choice
among many: the spine says whether the node has been counted already. -/
def depth (spine : Spine) : Ast → Nat
  | bracketed _ inner => 1 + inner.depth false
  | group _ body => 1 + body.depth .other
  | repeated body _ _ _ => 1 + body.depth .other
  | cat a b => (if spine = .sequence then 0 else 1) + max (a.depth .other) (b.depth .sequence)
  | alt a b => (if spine = .choice then 0 else 1) + max (a.depth .other) (b.depth .choice)
  | _ => 0

end Ast

end Waymark.Pattern
