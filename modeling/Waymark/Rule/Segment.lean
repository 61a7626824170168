import Waymark.Rule.Piece
import Waymark.Rule.Error
import Waymark.Template

/-! # The segments of a rule

A rule read against the vocabulary of its family is a sequence of literal texts and
placeholders. A placeholder is a keyword with affixes, written around the value and separated
from the keyword by colons. Since affixes may hold colons themselves, the keyword is the
right-most part between colons that the vocabulary knows.
-/

namespace Waymark.Rule

/-- An occurrence of a keyword in a rule. -/
structure Placeholder where
  /-- The name of the keyword. -/
  keyword : String
  /-- The vocabulary's entry for it. -/
  spec : Keyword
  /-- The text in front of the value. -/
  prepend : String
  /-- The text behind the value. -/
  append : String
deriving DecidableEq

namespace Placeholder

/-- Whether the value is bound to a parameter. -/
def required (p : Placeholder) : Bool := p.spec.isRequired

/-- Whether the placeholder has an affix, and so may be left out as a whole. -/
def hasAffix (p : Placeholder) : Bool := p.prepend != "" || p.append != ""

end Placeholder

/-- A part of a rule. -/
inductive Segment where
  | literal (text : String)
  | placeholder (p : Placeholder)
deriving DecidableEq

namespace Segment

/-- The placeholder that a segment is. -/
def placeholder? : Segment → Option Placeholder
  | literal _ => none
  | placeholder p => some p

/-- The placeholders among some segments, in order. -/
def placeholders (segments : List Segment) : List Placeholder := segments.filterMap placeholder?

end Segment

/-- The right-most part that a vocabulary knows, with the parts on either side. -/
def rightmostKeyword (vocabulary : OrderedMap String Keyword) :
    List (List Char) → Option (List (List Char) × (String × Keyword) × List (List Char))
  | [] => none
  | part :: parts =>
      match rightmostKeyword vocabulary parts with
      | some (before, found, after) => some (part :: before, found, after)
      | none =>
          let name := String.ofList part
          (vocabulary.get? name).map fun keyword => ([], (name, keyword), parts)

/-- Whether a text could be the name of a keyword: ASCII letters, digits and underscores. -/
def isKeywordName (text : List Char) : Bool :=
  !text.isEmpty && text.all fun c => c.isAlphanum || c == '_'

/-- Reads the body of a token. If it names no known keyword, the right-most part that could be a
name is reported. -/
def readPlaceholder (t : Template) (body : List Char) (position : Nat) :
    Except CompileError Placeholder :=
  let parts := Text.splitAll ':' body
  match rightmostKeyword t.keywords parts with
  | some (before, (name, keyword), after) =>
      .ok ⟨name, keyword, String.ofList (Text.joinAll ':' before),
        String.ofList (Text.joinAll ':' after)⟩
  | none =>
      match parts.reverse.find? isKeywordName with
      | some name => .error (.unknownKeyword t.routeId (String.ofList name))
      | none => .error (.malformedPlaceholder t.rule position)

/-- Reads pieces in order. A keyword may have one placeholder; `used` are those that have one
already. -/
def readPieces (t : Template) : (used : List String) → List Piece →
    Except CompileError (List Segment)
  | _, [] => .ok []
  | used, .literal text :: rest => do
      let segments ← readPieces t used rest
      pure (.literal (String.ofList text) :: segments)
  | used, .token body position :: rest => do
      let p ← readPlaceholder t body position
      if used.contains p.keyword then throw (.duplicateKeyword t.routeId p.keyword)
      let segments ← readPieces t (p.keyword :: used) rest
      pure (.placeholder p :: segments)

/-- Reads the rule of a template. -/
def segments (t : Template) : Except CompileError (List Segment) :=
  match Piece.ofRule 0 t.rule.toList with
  | .error position => .error (.malformedPlaceholder t.rule position)
  | .ok pieces => readPieces t [] pieces

end Waymark.Rule
