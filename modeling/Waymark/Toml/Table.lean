import Waymark.Toml.Token
import Waymark.Toml.Value

/-! # Adding to tables of TOML

Keys are defined once. A header opens a table that is new or only implied so far, and adds a
table to an array of such. Whatever a path goes through must be open to those who go there.
-/

namespace Waymark.Toml

/-- Changes the entry of a key where it stands, or makes one at the end. -/
def alter (key : String) (change : Option Value → Option Value) : Entries → Option Entries
  | [] => (change none).map fun value => [(key, value)]
  | entry :: rest =>
      if entry.1 = key then (change (some entry.2)).map fun value => (key, value) :: rest
      else (alter key change rest).map (entry :: ·)

/-- Changes the table that a path leads to. Tables that are missing are made on the way; those
that exist must be open. Through an array of tables the way leads to its last one. -/
def within (made : Origin) (isOpen : Origin → Bool)
    (change : Origin → Entries → Option Entries) :
    (path : List String) → Origin → Entries → Option Entries
  | [], origin, entries => change origin entries
  | key :: path, _, entries =>
      alter key (fun found => match found with
        | none => (within made isOpen change path made []).map (.table made)
        | some (.table origin entries) =>
            if isOpen origin then
              (within made isOpen change path origin entries).map (.table origin)
            else none
        | some (.tables earlier last) =>
            (within made isOpen change path .header last).map (.tables earlier)
        | some _ => none) entries

/-- Adds an entry with a new key. -/
def add (key : String) (value : Value) : Entries → Option Entries :=
  alter key fun found => match found with
    | none => some value
    | some _ => none

/-- Adds an entry with a dotted key, which makes tables of its own or goes on with such. -/
def addDotted (path : KeyPath) (value : Value) : Entries → Option Entries :=
  within .dotted (fun origin => origin = .implied ∨ origin = .dotted)
    (fun origin entries =>
      if path.parents.isEmpty ∨ origin = .dotted then add path.key value entries else none)
    path.parents .header

/-- Changes the table that the path of a header leads to. -/
def withinHeader (path : List String) (change : Entries → Option Entries) :
    Entries → Option Entries :=
  within .implied (· ≠ .inline) (fun _ => change) path .header

/-- Opens the table that a header names. One that was implied moves to the end. -/
def openTable (path : KeyPath) : Entries → Option Entries :=
  withinHeader path.parents fun entries =>
    match OrderedMap.find? path.key entries with
    | none => some (entries ++ [(path.key, .table .header [])])
    | some (.table .implied below) =>
        some (entries.filter (·.1 ≠ path.key) ++ [(path.key, .table .header below)])
    | some _ => none

/-- Adds a table to the array that a header names. -/
def openElement (path : KeyPath) : Entries → Option Entries :=
  withinHeader path.parents <| alter path.key fun found => match found with
    | none => some (.tables [] [])
    | some (.tables earlier last) => some (.tables (earlier ++ [last]) [])
    | some _ => none

end Waymark.Toml
