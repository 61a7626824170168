import Waymark.Pattern.Ast
import Waymark.Pattern.Error
import Waymark.Pattern.Expr

/-! # From the written form of a pattern to its meaning

Flags are applied to the items they reach, named classes and properties are replaced by the sets
they stand for. A setting of flags holds to the end of its group, across alternatives. With the
Unicode flag off, classes mean their ASCII parts, and whatever could match part of a character
is refused.
-/

namespace Waymark.Pattern

/-- The switches in force at some place of a pattern. -/
structure Flags where
  caseInsensitive : Bool
  multiLine : Bool
  dotMatchesNewline : Bool
  swapGreed : Bool
  unicode : Bool
  carriageReturn : Bool
deriving DecidableEq

namespace Flags

/-- The switches at the front of a pattern. -/
def initial : Flags := ⟨false, false, false, false, true, false⟩

/-- Sets one switch. Verbose mode concerns the reading of the text alone. -/
def set (flags : Flags) : Flag × Bool → Flags
  | (.caseInsensitive, on) => { flags with caseInsensitive := on }
  | (.multiLine, on) => { flags with multiLine := on }
  | (.dotMatchesNewline, on) => { flags with dotMatchesNewline := on }
  | (.swapGreed, on) => { flags with swapGreed := on }
  | (.unicode, on) => { flags with unicode := on }
  | (.carriageReturn, on) => { flags with carriageReturn := on }
  | (.verbose, _) => flags

/-- Sets switches one after another. -/
def setAll (flags : Flags) (items : List (Flag × Bool)) : Flags := items.foldl set flags

end Flags

namespace CharSet

/-- The ASCII characters of a named class. -/
def ofPosix : Posix → CharSet
  | .alnum => ofRanges [('0', '9'), ('A', 'Z'), ('a', 'z')]
  | .alpha => ofRanges [('A', 'Z'), ('a', 'z')]
  | .ascii => ascii
  | .blank => ofRanges [('\t', '\t'), (' ', ' ')]
  | .cntrl => ofRanges [('\x00', '\x1f'), ('\x7f', '\x7f')]
  | .digit => asciiDigit
  | .graph => range '!' '~'
  | .lower => range 'a' 'z'
  | .print => range ' ' '~'
  | .punct => ofRanges [('!', '/'), (':', '@'), ('[', '\x60'), ('\x7b', '~')]
  | .space => asciiSpace
  | .upper => range 'A' 'Z'
  | .word => asciiWord
  | .xdigit => ofRanges [('0', '9'), ('A', 'F'), ('a', 'f')]

/-- The characters of a classic class. -/
def ofPerl (unicode : Bool) : Perl → CharSet
  | .digit => if unicode then property Unicode.decimalDigit else asciiDigit
  | .space => if unicode then property Unicode.whiteSpace else asciiSpace
  | .word => if unicode then property Unicode.word else asciiWord

/-- The characters with a property. -/
def ofProperty : PropertyName → Except Error CharSet
  | .named name =>
      match Unicode.named? name with
      | some p => .ok (property p)
      | none => .error .unknownProperty
  | .valued name value =>
      match Unicode.valued? name value with
      | some p => .ok (property p)
      | none => .error .unknownProperty

/-- Closes a set under case if the flags ask for it. -/
def foldWith (flags : Flags) (s : CharSet) : CharSet :=
  if flags.caseInsensitive then (if flags.unicode then folded s else foldedAscii s) else s

/-- Closes a set under case, then takes the complement if asked. A set of single bytes must hold
ASCII only. -/
def foldAndNegate (flags : Flags) (negated : Bool) (s : CharSet) : Except Error CharSet :=
  let s := s.foldWith flags
  let s := if negated then compl s else s
  if flags.unicode then .ok s
  else if s.hasNoHighByte then .ok (inter s ascii)
  else .error .notText

/-- A classic class, or its complement. -/
def ofPerlItem (flags : Flags) (kind : Perl) (negated : Bool) : Except Error CharSet :=
  let s := ofPerl flags.unicode kind
  if !negated then .ok s
  else if flags.unicode then .ok (compl s)
  else .error .notText

/-- A property, or its complement. There are no properties of single bytes. -/
def ofPropertyItem (flags : Flags) (name : PropertyName) (negated : Bool) :
    Except Error CharSet := do
  if flags.unicode then
    let s ← ofProperty name
    foldAndNegate flags negated s
  else throw .notText

/-- Checks a character that is to stand for a single byte if the Unicode flag is off. -/
def checkMember (flags : Flags) (c : Char) (isByte : Bool) : Except Error Unit :=
  if flags.unicode || isByte || c.toNat < 0x80 then .ok () else .error .notText

/-- The set that the inside of brackets stands for. -/
def ofSetAst (flags : Flags) : SetAst → Except Error CharSet
  | .empty => .ok empty
  | .literal c isByte => do
      checkMember flags c isByte
      pure (only c)
  | .range low high lowIsByte highIsByte => do
      checkMember flags low lowIsByte
      checkMember flags high highIsByte
      pure (range low high)
  | .posix kind negated => foldAndNegate flags negated (ofPosix kind)
  | .perl kind negated => ofPerlItem flags kind negated
  | .property name negated => ofPropertyItem flags name negated
  | .bracketed negated inner => do
      let s ← ofSetAst flags inner
      foldAndNegate flags negated s
  | .union a b => do
      let a ← ofSetAst flags a
      let b ← ofSetAst flags b
      pure (union a b)
  | .op kind a b => do
      let a ← ofSetAst flags a
      let b ← ofSetAst flags b
      let a := a.foldWith flags
      let b := b.foldWith flags
      match kind with
      | .inter => pure (inter a b)
      | .diff => pure (diff a b)
      | .symmDiff => pure (symmDiff a b)

/-- What a dot stands for. -/
def ofDot (flags : Flags) : CharSet :=
  if flags.dotMatchesNewline then any
  else if flags.carriageReturn then compl (union (only '\n') (only '\r'))
  else compl (only '\n')

end CharSet

namespace Expr

/-- The condition that an assertion stands for. -/
def ofAssertion (flags : Flags) : Assertion → Anchor
  | .lineStart => if flags.multiLine then .lineStart flags.carriageReturn else .textStart
  | .lineEnd => if flags.multiLine then .lineEnd flags.carriageReturn else .textEnd
  | .textStart => .textStart
  | .textEnd => .textEnd
  | .wordBoundary => .wordBoundary flags.unicode
  | .noWordBoundary => .noWordBoundary flags.unicode
  | .wordStart => .wordStart flags.unicode
  | .wordEnd => .wordEnd flags.unicode
  | .wordStartHalf => .wordStartHalf flags.unicode
  | .wordEndHalf => .wordEndHalf flags.unicode

/-- The pattern of a single character. -/
def ofLiteral (flags : Flags) (c : Char) (isByte : Bool) : Except Error Expr :=
  if flags.unicode || !isByte || c.toNat < 0x80 then
    .ok (.one (CharSet.foldWith flags (.only c)))
  else .error .notText

/-- Whether a pattern can match nothing but the empty text. -/
def onlyEmpty : Expr → Bool
  | empty => true
  | anchor _ => true
  | one _ => false
  | capture _ body => body.onlyEmpty
  | cat a b => a.onlyEmpty && b.onlyEmpty
  | alt a b => a.onlyEmpty && b.onlyEmpty
  | repeated body _ high _ => body.onlyEmpty || high == some 0

/-- A repetition. What matches only the empty text is repeated once at most. -/
def repetition (body : Expr) (low : Nat) (high : Option Nat) (greedy : Bool) : Expr :=
  if body.onlyEmpty then repeated body (min low 1) (some (min (high.getD 1) 1)) greedy
  else repeated body low high greedy

/-- The meaning of a tree under flags, with the flags in force behind it. -/
def elaborate (flags : Flags) : Ast → Except Error (Expr × Flags)
  | .empty => .ok (empty, flags)
  | .literal c isByte => do
      let e ← ofLiteral flags c isByte
      pure (e, flags)
  | .dot => if flags.unicode then .ok (one (.ofDot flags), flags) else .error .notText
  | .assertion kind => .ok (anchor (ofAssertion flags kind), flags)
  | .perl kind negated => do
      let s ← CharSet.ofPerlItem flags kind negated
      pure (one s, flags)
  | .property name negated => do
      let s ← CharSet.ofPropertyItem flags name negated
      pure (one s, flags)
  | .bracketed negated inner => do
      let s ← CharSet.ofSetAst flags inner
      let s ← s.foldAndNegate flags negated
      pure (one s, flags)
  | .flags items => .ok (empty, flags.setAll items)
  | .group (.capture none) body => do
      let (e, _) ← elaborate flags body
      pure (e, flags)
  | .group (.capture (some name)) body => do
      let (e, _) ← elaborate flags body
      pure (capture name e, flags)
  | .group (.plain items) body => do
      let (e, _) ← elaborate (flags.setAll items) body
      pure (e, flags)
  | .repeated body low high greedy => do
      let (e, behind) ← elaborate flags body
      pure (repetition e low high (greedy != flags.swapGreed), behind)
  | .cat a b => do
      let (e, behind) ← elaborate flags a
      let (f, behind) ← elaborate behind b
      pure (cat e f, behind)
  | .alt a b => do
      let (e, behind) ← elaborate flags a
      let (f, behind) ← elaborate behind b
      pure (alt e f, behind)

end Expr

end Waymark.Pattern
