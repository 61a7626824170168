import Waymark.Text.Split
import Waymark.Text.Percent

/-! # Normal form of a request path

A raw request is a path and perhaps a query. Before routes are tried the query is cut off,
percent escapes are decoded, the mount point of the tenant is replaced by a slash, a leading
two-letter locale segment is set aside if the tenant asks for it, and trailing slashes go.
-/

namespace Waymark.Request

/-- A request path ready to be matched. -/
structure NormalizedPath where
  /-- Empty for the root; otherwise it starts with a slash and does not end with one. -/
  path : String
  /-- The locale segment that was taken off. -/
  localeCode : Option String
  /-- The request named the front script itself. -/
  indexScript : Bool
deriving DecidableEq

/-- The path of the front script. -/
def frontScriptPath : List Char := "/index.php".toList

/-- The part of a raw request before its query. -/
def rawPath (raw : List Char) : List Char :=
  match Text.splitFirst '?' raw with
  | some (path, _) => path
  | none => raw

/-- The query of a raw request: all that follows the first question mark. -/
def rawQuery? (raw : List Char) : Option (List Char) :=
  (Text.splitFirst '?' raw).map Prod.snd

/-- Replaces a nonempty mount point, compared without regard to ASCII case, by a slash. -/
def replaceBase (base text : List Char) : List Char :=
  if base = [] then text
  else match Text.dropLeading? base text with
    | some rest => '/' :: rest
    | none => text

/-- Puts a slash in front of a text that has none. -/
def withLeadingSlash : List Char → List Char
  | '/' :: rest => '/' :: rest
  | text => '/' :: text

/-- The decoded path of a raw request below its mount point, with a leading slash. -/
def mountedPath (base raw : List Char) : List Char :=
  withLeadingSlash (replaceBase base (Text.Percent.decode (rawPath raw)))

/-- Whether a character is a lower-case ASCII letter. -/
def isLower (c : Char) : Bool := 'a' ≤ c && c ≤ 'z'

/-- Splits a leading locale segment off a path: two lower-case letters that end the path or are
followed by a slash. A path with a line break behind the segment has none. -/
def splitLocale? : List Char → Option (List Char × List Char)
  | '/' :: a :: b :: rest =>
      if isLower a && isLower b then
        match rest with
        | [] => some ([a, b], [])
        | '/' :: more => if '\n' ∈ more then none else some ([a, b], '/' :: more)
        | _ => none
      else none
  | _ => none

/-- The locale segment of a mounted path, if it is to be taken off, and what remains. -/
def localeAndPath (stripLocale : Bool) (mounted : List Char) :
    Option (List Char) × List Char :=
  if stripLocale then
    match splitLocale? mounted with
    | some (code, rest) => (some code, rest)
    | none => (none, mounted)
  else (none, mounted)

/-- Brings a raw request into the form that routes are matched against. -/
def normalize (raw base : String) (stripLocale : Bool) : NormalizedPath :=
  let (code, path) := localeAndPath stripLocale (mountedPath base.toList raw.toList)
  { path := String.ofList (Text.dropTrailing '/' path)
    localeCode := code.map String.ofList
    indexScript := path == frontScriptPath }

end Waymark.Request
