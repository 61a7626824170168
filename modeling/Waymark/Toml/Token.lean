import Waymark.Text.Number

/-! # Reading TOML: blanks, keys and strings

A reader takes the remaining text and answers what it read with the text behind it, or nothing if
the text is not well formed.
-/

namespace Waymark.Toml

/-- What reads a part of a document. -/
abbrev Reader (α : Type) : Type := List Char → Option (α × List Char)

/-- Bounds the parts of a dotted key and the nesting of values. -/
def nestingLimit : Nat := 79

/-- Whether a character is white space within a line. -/
def isBlank (c : Char) : Bool := c == ' ' || c == '\t'

/-- Whether a character may stand for itself in text: no control character but the tab. -/
def isPlain (c : Char) : Bool := c == '\t' || (' ' ≤ c && c != '\x7f')

/-- Skips white space within a line. -/
def skipBlanks (text : List Char) : List Char := text.dropWhile isBlank

/-- The text behind the end of a line. -/
def newline? : List Char → Option (List Char)
  | '\n' :: rest => some rest
  | '\r' :: '\n' :: rest => some rest
  | _ => none

/-- The text behind the end of a line, before which there may be blanks and a comment. The last
line needs no end. -/
def endOfLine? (text : List Char) : Option (List Char) :=
  let text := match skipBlanks text with
    | '#' :: rest => rest.dropWhile isPlain
    | text => text
  if text.isEmpty then some [] else newline? text

/-- Skips blanks, ends of lines and comments. -/
def skipSpace : (inComment : Bool) → List Char → List Char
  | _, [] => []
  | _, '\n' :: rest => skipSpace false rest
  | _, '\r' :: '\n' :: rest => skipSpace false rest
  | false, '#' :: rest => skipSpace true rest
  | true, c :: rest => if isPlain c then skipSpace true rest else c :: rest
  | false, c :: rest => if isBlank c then skipSpace false rest else c :: rest

/-- Skips blanks and ends of lines. -/
def skipLines : List Char → List Char
  | [] => []
  | '\n' :: rest => skipLines rest
  | '\r' :: '\n' :: rest => skipLines rest
  | c :: rest => if isBlank c then skipLines rest else c :: rest

/-! ## Strings -/

/-- The character whose number is written in hexadecimal digits. -/
def hexChar? (digits : List Char) : Option Char := do
  let values ← digits.mapM Text.hexDigit?
  let n := values.foldl (fun acc d => acc * 16 + d) 0
  if n.isValidChar then some (Char.ofNat n) else none

/-- Reads a character that is written with a fixed number of hexadecimal digits. -/
def hexEscape (count : Nat) : Reader Char := fun text =>
  if count ≤ text.length then (hexChar? (text.take count)).map fun c => (c, text.drop count)
  else none

/-- Reads what follows a backslash. -/
def escape : Reader Char
  | 'b' :: rest => some ('\x08', rest)
  | 't' :: rest => some ('\t', rest)
  | 'n' :: rest => some ('\n', rest)
  | 'f' :: rest => some ('\x0c', rest)
  | 'r' :: rest => some ('\r', rest)
  | '"' :: rest => some ('"', rest)
  | '\\' :: rest => some ('\\', rest)
  | 'u' :: rest => hexEscape 4 rest
  | 'U' :: rest => hexEscape 8 rest
  | _ => none

/-- Puts characters before what a reader answers. -/
def prepend (front : List Char) (answer : Option (List Char × List Char)) :
    Option (List Char × List Char) :=
  answer.map fun read => (front ++ read.1, read.2)

/-- Reads a string of one line up to its closing quote. The fuel bounds its characters. -/
def lineString (quote : Char) (escapes : Bool) : (fuel : Nat) → Reader (List Char)
  | 0, _ => none
  | _ + 1, [] => none
  | fuel + 1, c :: rest =>
      if c = quote then some ([], rest)
      else if escapes ∧ c = '\\' then
        (escape rest).bind fun read => prepend [read.1] (lineString quote escapes fuel read.2)
      else if isPlain c then prepend [c] (lineString quote escapes fuel rest)
      else none

/-- Reads a string of several lines up to its closing quotes, before which there may be one or
two more that belong to it. The fuel bounds its characters. -/
def blockString (quote : Char) (escapes : Bool) : (fuel : Nat) → Reader (List Char)
  | 0, _ => none
  | _ + 1, [] => none
  | fuel + 1, c :: rest =>
      let run := ((c :: rest).takeWhile (· == quote)).length
      if 3 ≤ run then
        let kept := min (run - 3) 2
        some (List.replicate kept quote, (c :: rest).drop (kept + 3))
      else if c = quote then prepend [c] (blockString quote escapes fuel rest)
      else if escapes ∧ c = '\\' then
        match newline? (skipBlanks rest) with
        | some rest => blockString quote escapes fuel (skipLines rest)
        | none =>
            (escape rest).bind fun read => prepend [read.1] (blockString quote escapes fuel read.2)
      else match newline? (c :: rest) with
        | some rest => prepend ['\n'] (blockString quote escapes fuel rest)
        | none =>
            if isPlain c then prepend [c] (blockString quote escapes fuel rest) else none

/-- Reads what follows the opening quote of a string of one line. -/
def line (quote : Char) (escapes : Bool) : Reader String := fun text =>
  (lineString quote escapes (text.length + 1) text).map fun read => (String.ofList read.1, read.2)

/-- Reads what follows the opening quotes of a string of several lines. An end of line right
behind them does not count. -/
def block (quote : Char) (escapes : Bool) : Reader String := fun text =>
  let text := (newline? text).getD text
  (blockString quote escapes (text.length + 1) text).map fun read =>
    (String.ofList read.1, read.2)

/-- Reads a string. -/
def string : Reader String
  | '"' :: '"' :: '"' :: rest => block '"' true rest
  | '"' :: rest => line '"' true rest
  | '\'' :: '\'' :: '\'' :: rest => block '\'' false rest
  | '\'' :: rest => line '\'' false rest
  | _ => none

/-! ## Keys -/

/-- Whether a character may stand in a key without quotes. -/
def isBareKeyChar (c : Char) : Bool := c.isAlphanum || c == '_' || c == '-'

/-- Reads one part of a key. -/
def simpleKey : Reader String
  | '"' :: rest => line '"' true rest
  | '\'' :: rest => line '\'' false rest
  | text =>
      let (key, rest) := text.span isBareKeyChar
      if key.isEmpty then none else some (String.ofList key, rest)

/-- A key with the tables it goes through. -/
structure KeyPath where
  parents : List String
  key : String
deriving DecidableEq

/-- Reads a key of at most so many parts, with dots between them, and the blanks around it. -/
def keyPath : (parts : Nat) → Reader KeyPath
  | 0, _ => none
  | parts + 1, text =>
      (simpleKey (skipBlanks text)).bind fun read =>
        match skipBlanks read.2 with
        | '.' :: rest =>
            (keyPath parts rest).map fun below =>
              (⟨read.1 :: below.1.parents, below.1.key⟩, below.2)
        | rest => some (⟨[], read.1⟩, rest)

end Waymark.Toml
