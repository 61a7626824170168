import Waymark.Pattern.Read

/-! # Reading the text of a pattern: groups, repetitions and alternatives

`Ast.ofText` reads a whole pattern. The readers of sequences and alternatives call each other;
each call that does not stop at once uses up a character, so fuel proportional to the length of
the text is never exhausted.
-/

namespace Waymark.Pattern.Read

/-- The flag that a letter stands for. -/
def flag? : Char → Option Flag
  | 'i' => some .caseInsensitive
  | 'm' => some .multiLine
  | 's' => some .dotMatchesNewline
  | 'U' => some .swapGreed
  | 'u' => some .unicode
  | 'R' => some .carriageReturn
  | 'x' => some .verbose
  | _ => none

/-- Reads flags up to a colon or a closing parenthesis, which is answered with them. A hyphen
turns off the flags behind it; it may stand once, and not at the end. -/
def flags : (negated dangling : Bool) → List (Flag × Bool) → List Char →
    Except Error ((List (Flag × Bool) × Char) × List Char)
  | _, _, _, [] => .error .badFlags
  | negated, dangling, items, c :: rest =>
      if c = ':' ∨ c = ')' then
        if dangling then .error .badFlags else .ok ((items, c), rest)
      else if c = '-' then
        if negated then .error .badFlags else flags true true items rest
      else match flag? c with
        | none => .error .badFlags
        | some flag =>
            if items.any (·.1 = flag) then .error .badFlags
            else flags negated false (items ++ [(flag, !negated)]) rest

/-- What a list of flag settings says about one flag. -/
def setting? (flag : Flag) (items : List (Flag × Bool)) : Option Bool :=
  (items.find? (·.1 = flag)).map Prod.snd

/-- Whether a character may stand in the name of a group. -/
def isGroupNameChar (isFirst : Bool) (c : Char) : Bool :=
  if isFirst then c == '_' || Unicode.alphabetic.contains c
  else c == '_' || c == '.' || c == '[' || c == ']' || Unicode.isAlphanumeric c

/-- Reads the name of a group up to its angle bracket. -/
def groupNameTail : (isFirst : Bool) → List Char → Except Error (List Char × List Char)
  | _, [] => .error .badGroupName
  | isFirst, c :: rest =>
      if c = '>' then .ok ([], rest)
      else if isGroupNameChar isFirst c then do
        let (name, rest) ← groupNameTail false rest
        pure (c :: name, rest)
      else .error .badGroupName

/-- Reads the name of a group, which must not be empty. -/
def groupName (text : List Char) : Except Error (String × List Char) := do
  let (name, rest) ← groupNameTail true text
  if name.isEmpty then throw .badGroupName else pure (String.ofList name, rest)

/-- What an opening parenthesis begins. -/
inductive Opening where
  /-- A setting of flags, already closed. -/
  | directive (items : List (Flag × Bool))
  /-- A group whose body follows. -/
  | group (kind : GroupKind)

/-- Reads what follows an opening parenthesis. -/
def opening (verbose : Bool) (text : List Char) : Except Error (Opening × List Char) :=
  match skipBlank verbose text with
  | '?' :: '=' :: _ => .error .lookAround
  | '?' :: '!' :: _ => .error .lookAround
  | '?' :: '<' :: '=' :: _ => .error .lookAround
  | '?' :: '<' :: '!' :: _ => .error .lookAround
  | '?' :: 'P' :: '<' :: rest => do
      let (name, rest) ← groupName rest
      pure (.group (.capture (some name)), rest)
  | '?' :: '<' :: rest => do
      let (name, rest) ← groupName rest
      pure (.group (.capture (some name)), rest)
  | '?' :: rest => do
      let ((items, closing), rest) ← flags false false [] rest
      if closing = ':' then pure (.group (.plain items), rest)
      else if items.isEmpty then throw .nothingToRepeat
      else pure (.directive items, rest)
  | text => .ok (.group (.capture none), text)

/-- Reads a number between blanks, which do not count in any mode. -/
def decimal (verbose : Bool) (text : List Char) : Option (Nat × List Char) :=
  let rec digits : (fuel : Nat) → List Char → List Char × List Char
    | 0, text => ([], text)
    | fuel + 1, text =>
        match text with
        | c :: rest =>
            if c.isDigit then
              let (more, rest) := digits fuel (skipBlank verbose rest)
              (c :: more, rest)
            else ([], text)
        | [] => ([], [])
  let (found, rest) := digits (text.length + 1) (text.dropWhile Unicode.isWhiteSpace)
  if found.isEmpty then none
  else
    let n := found.foldl (fun acc c => acc * 10 + (c.toNat - 48)) 0
    if n < UInt32.size then
      some (n, skipBlank verbose (rest.dropWhile Unicode.isWhiteSpace))
    else none

/-- The bounds of a counted repetition: how often at least, and how often at most. -/
abbrev Bounds : Type := Nat × Option Nat

/-- Reads the bounds of a counted repetition whose opening brace has been read, up to and with
the closing brace. -/
def bounds (verbose : Bool) (text : List Char) : Except Error (Bounds × List Char) :=
  match decimal verbose (skipBlank verbose text) with
  | none => .error .badCount
  | some (low, '\x7d' :: rest) => .ok ((low, some low), rest)
  | some (low, ',' :: rest) =>
      match skipBlank verbose rest with
      | '\x7d' :: rest => .ok ((low, none), rest)
      | rest =>
          match decimal verbose rest with
          | some (high, '\x7d' :: rest) =>
              if low ≤ high then .ok ((low, some high), rest) else .error .badCount
          | _ => .error .badCount
  | some _ => .error .badCount

/-- Reads the question mark that makes a repetition prefer few rounds. -/
def greed (text : List Char) : Bool × List Char :=
  match text with
  | '?' :: rest => (false, rest)
  | _ => (true, text)

/-- Reads one repetition operator, if one comes next. -/
def repetition? (verbose : Bool) (text : List Char) :
    Except Error (Option (Bounds × Bool × List Char)) :=
  let simple (bounds : Bounds) (rest : List Char) :=
    let (greedy, rest) := greed rest
    some (bounds, greedy, rest)
  match skipBlank verbose text with
  | '?' :: rest => .ok (simple (0, some 1) rest)
  | '*' :: rest => .ok (simple (0, none) rest)
  | '+' :: rest => .ok (simple (1, none) rest)
  | '\x7b' :: rest => do
      let (bounds, rest) ← bounds verbose rest
      pure (simple bounds (skipBlank verbose rest))
  | _ => .ok none

/-- Applies the repetition operators that follow an item. A setting of flags cannot be
repeated. -/
def repetitions (verbose : Bool) : (fuel : Nat) → Ast → List Char → Except Error (Ast × List Char)
  | 0, item, text => .ok (item, text)
  | fuel + 1, item, text => do
      match ← repetition? verbose text with
      | none => pure (item, text)
      | some ((low, high), greedy, rest) =>
          match item with
          | .flags _ => throw .nothingToRepeat
          | _ => repetitions verbose fuel (.repeated item low high greedy) rest

/-- The tree of a character or escape. -/
def ofPrimitive : Primitive → Ast
  | .literal c isByte => .literal c isByte
  | .perl kind negated => .perl kind negated
  | .property name negated => .property name negated
  | .assertion kind => .assertion kind

mutual

/-- Reads alternatives up to a closing parenthesis or the end. -/
def alternatives :
    (fuel : Nat) → (verbose : Bool) → List Char → Except Error ((Ast × Bool) × List Char)
  | 0, _, _ => .error .tooDeep
  | fuel + 1, verbose, text => do
      let ((first, verbose), rest) ← sequence fuel verbose text
      match rest with
      | '|' :: rest => do
          let ((others, verbose), rest) ← alternatives fuel verbose rest
          pure ((.alt first others, verbose), rest)
      | _ => pure ((first, verbose), rest)

/-- Reads a sequence of items up to a bar, a closing parenthesis or the end. -/
def sequence : (fuel : Nat) → (verbose : Bool) → List Char → Except Error ((Ast × Bool) × List Char)
  | 0, _, _ => .error .tooDeep
  | fuel + 1, verbose, text =>
      match skipBlank verbose text with
      | [] => .ok ((.empty, verbose), [])
      | '|' :: rest => .ok ((.empty, verbose), '|' :: rest)
      | ')' :: rest => .ok ((.empty, verbose), ')' :: rest)
      | c :: rest => do
          let ((item, verbose), rest) ← atom fuel verbose c rest
          let (item, rest) ← repetitions verbose (rest.length + 1) item rest
          let ((others, verbose), rest) ← sequence fuel verbose rest
          pure ((item.append others, verbose), rest)

/-- Reads one item that starts with a given character. -/
def atom :
    (fuel : Nat) → (verbose : Bool) → Char → List Char → Except Error ((Ast × Bool) × List Char)
  | 0, _, _, _ => .error .tooDeep
  | fuel + 1, verbose, c, rest =>
      match c with
      | '(' => do
          match ← opening verbose rest with
          | (.directive items, rest) =>
              pure ((.flags items, (setting? .verbose items).getD verbose), rest)
          | (.group kind, rest) =>
              let inner := match kind with
                | .plain items => (setting? .verbose items).getD verbose
                | .capture _ => verbose
              let ((body, _), rest) ← alternatives fuel inner rest
              match rest with
              | ')' :: rest => pure ((.group kind body, verbose), rest)
              | _ => throw .unclosedGroup
      | '[' => do
          let ((negated, inner), rest) ← openedSet verbose (2 * rest.length + 2) rest
          pure ((.bracketed negated inner, verbose), rest)
      | '?' | '*' | '+' | '\x7b' => .error .nothingToRepeat
      | '\\' => do
          let (item, rest) ← escape verbose rest
          pure ((ofPrimitive item, verbose), rest)
      | '.' => .ok ((.dot, verbose), rest)
      | '^' => .ok ((.assertion .lineStart, verbose), rest)
      | '$' => .ok ((.assertion .lineEnd, verbose), rest)
      | c => .ok ((.literal c false, verbose), rest)

end

end Waymark.Pattern.Read

namespace Waymark.Pattern

namespace Ast

/-- The deepest nesting that is accepted. -/
def maxDepth : Nat := 250

/-- The first name that occurs twice in a list. -/
def repeatedName? : List String → Option String
  | [] => none
  | name :: rest => if rest.contains name then some name else repeatedName? rest

/-- Reads the text of a whole pattern. -/
def ofText (text : List Char) : Except Error Ast := do
  match ← Read.alternatives (4 * text.length + 4) false text with
  | ((ast, _), []) =>
      if maxDepth < ast.depth .other then throw .tooDeep
      match repeatedName? ast.groupNames with
      | some name => throw (.duplicateGroupName name)
      | none => pure ast
  | _ => throw .unopenedGroup

end Ast

end Waymark.Pattern
