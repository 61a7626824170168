import Waymark.Toml.Number
import Waymark.Toml.Table

/-! # Reading TOML: documents

A document is a sequence of statements, a line each at least: entries, headers of tables, and
headers of tables in arrays. Entries go to the table of the last header.
-/

namespace Waymark.Toml

/-- Reads a value that is no array and no table. -/
def scalar : Reader Value
  | 't' :: 'r' :: 'u' :: 'e' :: rest => some (.boolean true, rest)
  | 'f' :: 'a' :: 'l' :: 's' :: 'e' :: rest => some (.boolean false, rest)
  | text => ((string text).map fun read => (.string read.1, read.2)).or (number text)

/-- Reads the items of an array up to its closing bracket. The fuel bounds the items. -/
def items (item : Reader Value) : (fuel : Nat) → Reader (List Value)
  | 0, _ => none
  | fuel + 1, text =>
      match skipSpace false text with
      | ']' :: rest => some ([], rest)
      | text =>
          (item text).bind fun read =>
            match skipSpace false read.2 with
            | ']' :: rest => some ([read.1], rest)
            | ',' :: rest =>
                (items item fuel rest).map fun others => (read.1 :: others.1, others.2)
            | _ => none

/-- Reads a key, an equals sign and a value. -/
def entry (item : Reader Value) : Reader (KeyPath × Value) := fun text => do
  let (path, rest) ← keyPath nestingLimit text
  let (value, rest) ← item (skipBlanks (← expect '=' rest))
  pure ((path, value), rest)

/-- Reads the entries of a table up to its closing brace. There is at least one, and no comma
behind the last. The fuel bounds the entries. -/
def inlineEntries (item : Reader Value) : (fuel : Nat) → Reader (List (KeyPath × Value))
  | 0, _ => none
  | fuel + 1, text =>
      (entry item text).bind fun read =>
        match skipBlanks read.2 with
        | '\x7d' :: rest => some ([read.1], rest)
        | ',' :: rest =>
            (inlineEntries item fuel rest).map fun others => (read.1 :: others.1, others.2)
        | _ => none

/-- Adds entries one after another. -/
def addAll (entries : List (KeyPath × Value)) : Option Entries :=
  entries.foldlM (fun table added => addDotted added.1 added.2 table) []

/-- Reads what follows the opening brace of a table. -/
def inlineTable (item : Reader Value) : Reader Value := fun text =>
  match skipBlanks text with
  | '\x7d' :: rest => some (.table .inline [], rest)
  | text => do
      let (entries, rest) ← inlineEntries item (text.length + 1) text
      let table ← addAll entries
      pure (.table .inline table, rest)

/-- Reads a value that is nested at most so deep. -/
def value : (depth : Nat) → Reader Value
  | 0, text => scalar text
  | depth + 1, text =>
      match text with
      | '[' :: rest =>
          (items (value depth) (rest.length + 1) rest).map fun read => (.array read.1, read.2)
      | '\x7b' :: rest => inlineTable (value depth) rest
      | text => scalar text

/-- What a line of a document says. -/
inductive Statement where
  /-- An entry of the table at hand. -/
  | entry (path : KeyPath) (value : Value)
  /-- The header of a table. -/
  | table (path : KeyPath)
  /-- The header of a table in an array. -/
  | element (path : KeyPath)

/-- Reads a statement. -/
def statement : Reader Statement
  | '[' :: '[' :: rest => do
      let (path, rest) ← keyPath nestingLimit rest
      pure (.element path, ← expect ']' (← expect ']' rest))
  | '[' :: rest => do
      let (path, rest) ← keyPath nestingLimit rest
      pure (.table path, ← expect ']' rest)
  | text => (entry (value nestingLimit) text).map fun read => (.entry read.1.1 read.1.2, read.2)

/-- Reads all statements, each with the end of its line. The fuel bounds the statements. -/
def statements : (fuel : Nat) → List Char → Option (List Statement)
  | 0, _ => none
  | fuel + 1, text =>
      match skipSpace false text with
      | [] => some []
      | text => do
          let (first, rest) ← statement text
          let others ← statements fuel (← endOfLine? rest)
          pure (first :: others)

/-- A document as far as it was read. -/
structure Document where
  root : Entries
  /-- The path of the table that entries go to. -/
  current : List String

namespace Document

/-- The document without statements. -/
def empty : Document := ⟨[], []⟩

/-- Adds a statement. -/
def apply (d : Document) : Statement → Option Document
  | .entry path value =>
      (withinHeader d.current (addDotted path value) d.root).map fun root => { d with root }
  | .table path => (openTable path d.root).map fun root => ⟨root, path.parents ++ [path.key]⟩
  | .element path => (openElement path d.root).map fun root => ⟨root, path.parents ++ [path.key]⟩

end Document

/-- Reads a document. A mark of the byte order at its start does not count. -/
def parse (text : List Char) : Option Entries := do
  let text := match text with
    | '\uFEFF' :: rest => rest
    | text => text
  let ss ← statements (text.length + 1) text
  let document ← ss.foldlM Document.apply Document.empty
  pure document.root

end Waymark.Toml
