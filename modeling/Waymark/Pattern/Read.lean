import Waymark.Pattern.Ast
import Waymark.Pattern.Error
import Waymark.Text.Number
import Waymark.Unicode.Property

/-! # Reading the text of a pattern: characters, escapes and sets

Readers take the remaining text and answer what they read with the text behind it. In verbose
mode, blanks and comments between tokens do not count; the first argument of a reader says
whether that mode is on.
-/

namespace Waymark.Pattern.Read

/-- Skips blanks, and comments that end with their line. -/
def skipComments : (inComment : Bool) → List Char → List Char
  | _, [] => []
  | true, c :: rest => skipComments (c ≠ '\n') rest
  | false, c :: rest =>
      if Unicode.isWhiteSpace c then skipComments false rest
      else if c = '#' then skipComments true rest
      else c :: rest

/-- Skips what does not count between tokens. -/
def skipBlank (verbose : Bool) (text : List Char) : List Char :=
  if verbose then skipComments false text else text

/-- Reads a fixed number of hexadecimal digits. -/
def hexDigits (verbose : Bool) : (count acc : Nat) → List Char → Except Error (Nat × List Char)
  | 0, acc, text => .ok (acc, text)
  | _ + 1, _, [] => .error .badEscape
  | count + 1, acc, c :: rest =>
      match Text.hexDigit? c with
      | some d => hexDigits verbose count (acc * 16 + d) (skipBlank verbose rest)
      | none => .error .badEscape

/-- Reads hexadecimal digits up to a closing brace. The fuel bounds the digits. -/
def bracedHexDigits (verbose : Bool) :
    (fuel : Nat) → (acc : Option Nat) → List Char → Except Error (Nat × List Char)
  | 0, _, _ => .error .badEscape
  | fuel + 1, acc, text =>
      match skipBlank verbose text with
      | [] => .error .badEscape
      | c :: rest =>
          if c = '\x7d' then
            match acc with
            | some n => .ok (n, rest)
            | none => .error .badEscape
          else match Text.hexDigit? c with
            | some d => bracedHexDigits verbose fuel (some (acc.getD 0 * 16 + d)) rest
            | none => .error .badEscape

/-- Reads the digits of a numeric escape whose letter asks for `count` of them, and answers the
character with whether it was written without braces. -/
def hexEscape (verbose : Bool) (count : Nat) (text : List Char) :
    Except Error ((Char × Bool) × List Char) := do
  let (n, isFixed, rest) ← match skipBlank verbose text with
    | '\x7b' :: rest => do
        let (n, rest) ← bracedHexDigits verbose (rest.length + 1) none rest
        pure (n, false, rest)
    | text => do
        let (n, rest) ← hexDigits verbose count 0 text
        pure (n, true, rest)
  if n.isValidChar then pure ((Char.ofNat n, isFixed), rest) else throw .badEscape

/-- Collects the name of a property up to its closing brace. -/
def propertyText (verbose : Bool) : (fuel : Nat) → List Char → Except Error (List Char × List Char)
  | 0, _ => .error .badEscape
  | fuel + 1, text =>
      match skipBlank verbose text with
      | [] => .error .badEscape
      | c :: rest =>
          if c = '\x7d' then .ok ([], rest)
          else do
            let (name, rest) ← propertyText verbose fuel rest
            pure (c :: name, rest)

/-- Splits a text before and after the first occurrence of two characters in a row. -/
def splitAtPair (a b : Char) : List Char → Option (List Char × List Char)
  | c :: d :: rest =>
      if c = a ∧ d = b then some ([], rest)
      else (splitAtPair a b (d :: rest)).map fun parts => (c :: parts.1, parts.2)
  | _ => none

/-- Splits a text before and after the first occurrence of a character. -/
def splitAtChar (a : Char) : List Char → Option (List Char × List Char)
  | [] => none
  | c :: rest =>
      if c = a then some ([], rest)
      else (splitAtChar a rest).map fun parts => (c :: parts.1, parts.2)

/-- The property that a name in braces asks for, and whether it is asked for negated. -/
def propertyName (text : List Char) : PropertyName × Bool :=
  let valued (parts : List Char × List Char) : PropertyName :=
    .valued (String.ofList parts.1) (String.ofList parts.2)
  match splitAtPair '!' '=' text with
  | some parts => (valued parts, true)
  | none =>
      match (splitAtChar ':' text).or (splitAtChar '=' text) with
      | some parts => (valued parts, false)
      | none => (.named (String.ofList text), false)

/-- Reads the name of a property: one letter, or a name in braces. -/
def property (verbose negated : Bool) (text : List Char) :
    Except Error ((PropertyName × Bool) × List Char) :=
  match skipBlank verbose text with
  | [] => .error .badEscape
  | c :: rest =>
      if c = '\x7b' then do
        let (name, rest) ← propertyText verbose (rest.length + 1) rest
        let (asked, flipped) := propertyName name
        pure ((asked, negated != flipped), rest)
      else if c = '\\' then .error .badEscape
      else .ok ((.named (String.singleton c), negated), skipBlank verbose rest)

/-- Whether a character may stand in the name of a special word boundary. -/
def isBoundaryChar (c : Char) : Bool := c.isAlpha || c == '-'

/-- Collects the name of a special word boundary up to a character that cannot be in it. -/
def boundaryName (verbose : Bool) : (fuel : Nat) → List Char → List Char × List Char
  | 0, text => ([], text)
  | fuel + 1, text =>
      match text with
      | c :: rest =>
          if isBoundaryChar c then
            let (name, rest) := boundaryName verbose fuel (skipBlank verbose rest)
            (c :: name, rest)
          else ([], text)
      | [] => ([], [])

/-- Reads what may follow the escape of a word boundary: a name in braces makes it a special one,
other braces are left for the reader of repetitions. -/
def wordBoundary (verbose : Bool) (text : List Char) : Except Error (Assertion × List Char) :=
  match text with
  | '\x7b' :: rest =>
      match skipBlank verbose rest with
      | [] => .error .badEscape
      | c :: more =>
          if isBoundaryChar c then
            match boundaryName verbose (more.length + 1) (c :: more) with
            | (name, '\x7d' :: after) =>
                match String.ofList name with
                | "start" => .ok (.wordStart, after)
                | "end" => .ok (.wordEnd, after)
                | "start-half" => .ok (.wordStartHalf, after)
                | "end-half" => .ok (.wordEndHalf, after)
                | _ => .error .badEscape
            | _ => .error .badEscape
          else .ok (.wordBoundary, text)
  | _ => .ok (.wordBoundary, text)

/-- What a single character or an escape stands for. -/
inductive Primitive where
  | literal (c : Char) (isByte : Bool)
  | perl (kind : Perl) (negated : Bool)
  | property (name : PropertyName) (negated : Bool)
  | assertion (kind : Assertion)

/-- Whether an escaped character stands for itself: ASCII characters that are neither letters
nor digits nor angle brackets. -/
def isEscapable (c : Char) : Bool :=
  c.toNat < 0x80 && !c.isAlphanum && c != '<' && c != '>'

/-- Reads an escape whose backslash has been read. -/
def escape (verbose : Bool) : List Char → Except Error (Primitive × List Char)
  | [] => .error .badEscape
  | c :: rest =>
      match c with
      | 'x' => do
          let ((d, isFixed), rest) ← hexEscape verbose 2 rest
          pure (.literal d isFixed, rest)
      | 'u' => do
          let ((d, _), rest) ← hexEscape verbose 4 rest
          pure (.literal d false, rest)
      | 'U' => do
          let ((d, _), rest) ← hexEscape verbose 8 rest
          pure (.literal d false, rest)
      | 'p' => do
          let ((name, negated), rest) ← property verbose false rest
          pure (.property name negated, rest)
      | 'P' => do
          let ((name, negated), rest) ← property verbose true rest
          pure (.property name negated, rest)
      | 'd' => .ok (.perl .digit false, rest)
      | 'D' => .ok (.perl .digit true, rest)
      | 's' => .ok (.perl .space false, rest)
      | 'S' => .ok (.perl .space true, rest)
      | 'w' => .ok (.perl .word false, rest)
      | 'W' => .ok (.perl .word true, rest)
      | 'a' => .ok (.literal '\x07' false, rest)
      | 'f' => .ok (.literal '\x0c' false, rest)
      | 't' => .ok (.literal '\t' false, rest)
      | 'n' => .ok (.literal '\n' false, rest)
      | 'r' => .ok (.literal '\r' false, rest)
      | 'v' => .ok (.literal '\x0b' false, rest)
      | 'A' => .ok (.assertion .textStart, rest)
      | 'z' => .ok (.assertion .textEnd, rest)
      | 'b' => do
          let (kind, rest) ← wordBoundary verbose rest
          pure (.assertion kind, rest)
      | 'B' => .ok (.assertion .noWordBoundary, rest)
      | '<' => .ok (.assertion .wordStart, rest)
      | '>' => .ok (.assertion .wordEnd, rest)
      | _ => if isEscapable c then .ok (.literal c false, rest) else .error .badEscape

/-- The class that a name between `[:` and `:]` stands for. -/
def posix? : String → Option Posix
  | "alnum" => some .alnum
  | "alpha" => some .alpha
  | "ascii" => some .ascii
  | "blank" => some .blank
  | "cntrl" => some .cntrl
  | "digit" => some .digit
  | "graph" => some .graph
  | "lower" => some .lower
  | "print" => some .print
  | "punct" => some .punct
  | "space" => some .space
  | "upper" => some .upper
  | "word" => some .word
  | "xdigit" => some .xdigit
  | _ => none

/-- Reads a named class of ASCII characters whose opening bracket has been read. If it is not
one, the bracket opens a nested set. -/
def posixItem? (text : List Char) : Option (SetAst × List Char) :=
  match text with
  | ':' :: rest =>
      let (negated, rest) := match rest with
        | '^' :: more => (true, more)
        | _ => (false, rest)
      match splitAtChar ':' rest with
      | some (name, ']' :: after) =>
          (posix? (String.ofList name)).map fun kind => (.posix kind negated, after)
      | _ => none
  | _ => none

/-- Reads one character or escape in a bracketed set. -/
def setPrimitive (verbose : Bool) : List Char → Except Error (Primitive × List Char)
  | [] => .error .unclosedSet
  | '\\' :: rest => escape verbose rest
  | c :: rest => .ok (.literal c false, rest)

/-- The item of a set that a character or escape is by itself. Conditions on positions are no
items. -/
def setItem : Primitive → Except Error SetAst
  | .literal c isByte => .ok (.literal c isByte)
  | .perl kind negated => .ok (.perl kind negated)
  | .property name negated => .ok (.property name negated)
  | .assertion _ => .error .badEscape

/-- Whether the hyphen in front of a text makes a range: it does not before a closing bracket or
another hyphen. -/
def startsRange (verbose : Bool) (text : List Char) : Bool :=
  match skipBlank verbose text with
  | ']' :: _ => false
  | '-' :: _ => false
  | _ => true

/-- The range between two characters. -/
def setRange : Primitive → Primitive → Except Error SetAst
  | .literal low lowIsByte, .literal high highIsByte =>
      if low ≤ high then .ok (.range low high lowIsByte highIsByte) else .error .badRange
  | _, _ => .error .badRange

/-- Reads one item or range of a set. -/
def setMember (verbose : Bool) (text : List Char) : Except Error (SetAst × List Char) := do
  let (low, rest) ← setPrimitive verbose text
  match skipBlank verbose rest with
  | [] => throw .unclosedSet
  | '-' :: after =>
      if startsRange verbose after then
        let (high, rest) ← setPrimitive verbose (skipBlank verbose after)
        let range ← setRange low high
        pure (range, rest)
      else
        let item ← setItem low
        pure (item, '-' :: after)
  | rest =>
      let item ← setItem low
      pure (item, rest)

/-- The operand of a set operation, joined to a pending left one. -/
def closeOperand : Option (SetOp × SetAst) → SetAst → SetAst
  | some (kind, left), right => .op kind left right
  | none, right => right

/-- Reads the hyphens that may stand at the front of a set. -/
def leadingHyphens (verbose : Bool) : (fuel : Nat) → SetAst → List Char → SetAst × List Char
  | 0, items, text => (items, text)
  | fuel + 1, items, text =>
      match text with
      | '-' :: rest =>
          leadingHyphens verbose fuel (items.add (.literal '-' false)) (skipBlank verbose rest)
      | _ => (items, text)

/-- Reads the front of a set whose bracket has been read: a negation, hyphens, and a closing
bracket that stands for itself because it comes first. -/
def setFront (verbose : Bool) (text : List Char) : Bool × SetAst × List Char :=
  let text := skipBlank verbose text
  let (negated, text) := match text with
    | '^' :: rest => (true, skipBlank verbose rest)
    | _ => (false, text)
  let (items, rest) := leadingHyphens verbose text.length .empty text
  match items, rest with
  | .empty, ']' :: rest => (negated, .literal ']' false, skipBlank verbose rest)
  | _, _ => (negated, items, rest)

mutual

/-- Reads a set whose opening bracket has been read. -/
def openedSet (verbose : Bool) :
    (fuel : Nat) → List Char → Except Error ((Bool × SetAst) × List Char)
  | 0, _ => .error .unclosedSet
  | fuel + 1, text => do
      let (negated, items, rest) := setFront verbose text
      let (inner, rest) ← setBody verbose fuel none items rest
      pure ((negated, inner), rest)

/-- Reads the items and operations of a set up to its closing bracket. -/
def setBody (verbose : Bool) :
    (fuel : Nat) → Option (SetOp × SetAst) → SetAst → List Char → Except Error (SetAst × List Char)
  | 0, _, _, _ => .error .unclosedSet
  | fuel + 1, pending, items, text =>
      match skipBlank verbose text with
      | [] => .error .unclosedSet
      | ']' :: rest => .ok (closeOperand pending items, rest)
      | '&' :: '&' :: rest =>
          setBody verbose fuel (some (.inter, closeOperand pending items)) .empty rest
      | '-' :: '-' :: rest =>
          setBody verbose fuel (some (.diff, closeOperand pending items)) .empty rest
      | '~' :: '~' :: rest =>
          setBody verbose fuel (some (.symmDiff, closeOperand pending items)) .empty rest
      | '[' :: rest =>
          match posixItem? rest with
          | some (item, rest) => setBody verbose fuel pending (items.add item) rest
          | none => do
              let ((negated, inner), rest) ← openedSet verbose fuel rest
              setBody verbose fuel pending (items.add (.bracketed negated inner)) rest
      | text => do
          let (item, rest) ← setMember verbose text
          setBody verbose fuel pending (items.add item) rest

end

end Waymark.Pattern.Read
