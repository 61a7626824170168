import Waymark.Text.Split

/-! # The pieces of a rule

A rule is literal text with tokens in braces. `Piece.ofRule` cuts a rule into its pieces;
`Piece.render` writes pieces back. Braces neither nest nor stand alone: the reader answers the
byte position of the first brace that breaks this.
-/

namespace Waymark.Rule

/-- A piece of a rule. -/
inductive Piece where
  /-- Text that stands for itself. -/
  | literal (text : List Char)
  /-- The text between two braces, with the position of the opening one in bytes. -/
  | token (body : List Char) (position : Nat)
deriving DecidableEq

/-- Whether a character is a brace. -/
def isBrace (c : Char) : Bool := c == '\x7b' || c == '\x7d'

/-- The text in front of the first brace. -/
def beforeBrace (text : List Char) : List Char := text.takeWhile fun c => !isBrace c

/-- The text from the first brace on. -/
def fromBrace (text : List Char) : List Char := text.dropWhile fun c => !isBrace c

theorem beforeBrace_append_fromBrace (text : List Char) :
    beforeBrace text ++ fromBrace text = text :=
  List.takeWhile_append_dropWhile

theorem length_fromBrace_le (text : List Char) : (fromBrace text).length ≤ text.length := by
  have h := congrArg List.length (beforeBrace_append_fromBrace text)
  rw [List.length_append] at h
  omega

namespace Piece

/-- The piece of literal text that a text makes: none if it is empty. -/
def ofText (text : List Char) : List Piece := if text = [] then [] else [literal text]

/-- Cuts a rule into pieces. The offset is the number of bytes before the text; the error is the
position of the first brace out of place. -/
def ofRule (offset : Nat) (text : List Char) : Except Nat (List Piece) :=
  match _htext : fromBrace text with
  | [] => .ok (ofText (beforeBrace text))
  | brace :: rest =>
      let position := offset + Text.byteLength (beforeBrace text)
      if brace = '\x7d' then .error position
      else match _hrest : fromBrace rest with
        | '\x7d' :: after => do
            let body := beforeBrace rest
            let pieces ← ofRule (position + Text.byteLength body + 2) after
            pure (ofText (beforeBrace text) ++ token body position :: pieces)
        | _ => .error position
termination_by text.length
decreasing_by
  have h₁ := length_fromBrace_le text
  have h₂ := length_fromBrace_le rest
  rw [_htext] at h₁
  rw [_hrest] at h₂
  simp only [List.length_cons] at h₁ h₂
  omega

/-- Writes a piece. -/
def text : Piece → List Char
  | literal text => text
  | token body _ => '\x7b' :: body ++ ['\x7d']

/-- Writes pieces one after another. -/
def render (pieces : List Piece) : List Char := pieces.flatMap text

/-- The bodies of the tokens among some pieces. -/
def bodies (pieces : List Piece) : List (List Char) :=
  pieces.filterMap fun piece => match piece with
    | literal _ => none
    | token body _ => some body

end Piece

end Waymark.Rule
