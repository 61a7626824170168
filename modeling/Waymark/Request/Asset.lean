/-! # Static assets

Paths that end in the extension of an image, a style sheet or a script are left to the web
server. Case does not count, and one character outside ASCII folds to the letter `s`.
-/

namespace Waymark.Request

/-- The extensions of static assets. -/
def assetExtensions : List (List Char) :=
  ["gif", "jpg", "jpeg", "png", "css", "js", "ico"].map String.toList

/-- The lower-case letter that a character folds to, as far as extensions go. -/
def foldExtensionChar (c : Char) : Char := if c = '\u017f' then 's' else c.toLower

/-- The text behind the last dot. -/
def extension? : List Char → Option (List Char)
  | [] => none
  | c :: rest =>
      match extension? rest with
      | some found => some found
      | none => if c = '.' then some rest else none

/-- Whether a path is that of a static asset. -/
def isStaticAsset (path : String) : Bool :=
  (extension? path.toList).any fun found => assetExtensions.contains (found.map foldExtensionChar)

end Waymark.Request
