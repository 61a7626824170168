import Waymark.Unicode.CategoryTable
import Waymark.Unicode.ScriptTable
import Waymark.Unicode.ScriptExtensionTable
import Waymark.Unicode.PropertyTable

/-! # Character properties by name

Names of properties are compared loosely: case, spaces, hyphens and underscores do not count,
nor does a leading "is". A bare name may be a binary property, a general category or a script;
a name with a value selects among the values of one property.
-/

namespace Waymark.Unicode

/-- A set of characters: those in one of the tables, or those in none of them. -/
structure Property where
  tables : List RangeTable
  negated : Bool
deriving DecidableEq

namespace Property

/-- Whether a character has the property. -/
def contains (p : Property) (c : Char) : Bool :=
  (p.tables.any fun table => table.contains c.toNat) != p.negated

/-- The characters of one table. -/
def ofTable (table : RangeTable) : Property := ⟨[table], false⟩

/-- Every character. -/
def any : Property := ⟨[], true⟩

/-- The ASCII characters. -/
def ascii : Property := ofTable ⟨#[(0, 0x7F)]⟩

end Property

/-- The entry of a table that goes by a loose name. -/
def findTable? (tables : List (List String × RangeTable)) (name : String) : Option RangeTable :=
  (tables.find? fun entry => entry.1.contains name).map Prod.snd

/-- The entries of a table whose short names are given. -/
def selectTables (tables : List (List String × RangeTable)) (names : List String) :
    List RangeTable :=
  names.filterMap (findTable? tables)

/-- The characters in one of several general categories. -/
def ofCategories (names : List String) : Property := ⟨selectTables categoryTable names, false⟩

/-- The characters whose general category is none of those given. -/
def outsideCategories (names : List String) : Property := ⟨selectTables categoryTable names, true⟩

/-- The general categories of letters. -/
def letterCategories : List String := ["lu", "ll", "lt", "lm", "lo"]

/-- The general categories of marks. -/
def markCategories : List String := ["mn", "mc", "me"]

/-- The general categories of numbers. -/
def numberCategories : List String := ["nd", "nl", "no"]

/-- The general categories of punctuation. -/
def punctuationCategories : List String := ["pc", "pd", "ps", "pe", "pi", "pf", "po"]

/-- The general categories of symbols. -/
def symbolCategories : List String := ["sm", "sc", "sk", "so"]

/-- The general categories of separators. -/
def separatorCategories : List String := ["zs", "zl", "zp"]

/-- The general categories of assigned characters that are no graphic characters. -/
def controlCategories : List String := ["cc", "cf", "co"]

/-- The general categories of graphic characters and separators. -/
def visibleCategories : List String :=
  letterCategories ++ markCategories ++ numberCategories ++ punctuationCategories ++
    symbolCategories ++ separatorCategories

/-- A group of general categories by loose name. -/
def categoryGroup? : String → Option Property
  | "l" | "letter" => some (ofCategories letterCategories)
  | "lc" | "casedletter" => some (ofCategories ["lu", "ll", "lt"])
  | "m" | "mark" | "combiningmark" => some (ofCategories markCategories)
  | "n" | "number" => some (ofCategories numberCategories)
  | "p" | "punctuation" | "punct" => some (ofCategories punctuationCategories)
  | "s" | "symbol" => some (ofCategories symbolCategories)
  | "z" | "separator" => some (ofCategories separatorCategories)
  | "c" | "other" => some (outsideCategories visibleCategories)
  | "cn" | "unassigned" => some (outsideCategories (visibleCategories ++ controlCategories))
  | "assigned" => some (ofCategories (visibleCategories ++ controlCategories))
  | "any" => some .any
  | "ascii" => some .ascii
  | _ => none

/-- A general category, or a group of them, by loose name. -/
def category? (name : String) : Option Property :=
  match categoryGroup? name with
  | some property => some property
  | none => (findTable? categoryTable name).map .ofTable

/-- A script by loose name. -/
def script? (name : String) : Option Property := (findTable? scriptTable name).map .ofTable

/-- The characters used with a script, by loose name. -/
def scriptExtension? (name : String) : Option Property :=
  match findTable? scriptExtensionTable name with
  | some table => some (.ofTable table)
  | none => script? name

/-- A binary property by loose name. Three short names are left to general categories. -/
def binary? (name : String) : Option Property :=
  if name = "cf" ∨ name = "sc" ∨ name = "lc" then none
  else (findTable? propertyTable name).map .ofTable

/-- Lower case for ASCII; separators and characters outside ASCII go. -/
def squeeze (name : List Char) : List Char :=
  (name.filter fun c => c.toNat < 0x80 && c != ' ' && c != '_' && c != '-').map Char.toLower

/-- The loose form of a name. A leading "is" goes, except in the short name of one property
that would otherwise read as a general category. -/
def looseName (name : String) : String :=
  let chars := name.toList
  let (isForm, body) := match chars with
    | a :: b :: rest => if a.toLower = 'i' ∧ b.toLower = 's' then (true, rest) else (false, chars)
    | _ => (false, chars)
  let squeezed := squeeze body
  if isForm ∧ squeezed = ['c'] then "isc" else String.ofList squeezed

/-- What a bare property name selects: a binary property, else a general category, else a
script. -/
def named? (name : String) : Option Property :=
  let name := looseName name
  (binary? name).or ((category? name).or (script? name))

/-- What a property name with a value selects. -/
def valued? (name value : String) : Option Property :=
  let value := looseName value
  match looseName name with
  | "gc" | "generalcategory" => category? value
  | "sc" | "script" => script? value
  | "scx" | "scriptextensions" => scriptExtension? value
  | _ => none

/-- The characters with a binary property that has a table. -/
def binaryProperty (name : String) : Property := ((binary? name).getD ⟨[], false⟩)

/-- Alphabetic characters. -/
def alphabetic : Property := binaryProperty "alphabetic"

/-- White space. -/
def whiteSpace : Property := binaryProperty "whitespace"

/-- Decimal digits of any script. -/
def decimalDigit : Property := ofCategories ["nd"]

/-- Characters of words: alphabetic characters, marks, decimal digits, connectors and joiners. -/
def word : Property :=
  ⟨alphabetic.tables ++ selectTables categoryTable (markCategories ++ ["nd", "pc"]) ++
    (binaryProperty "joincontrol").tables, false⟩

/-- Whether a character is alphabetic or a number of any kind. -/
def isAlphanumeric (c : Char) : Bool :=
  alphabetic.contains c || (ofCategories numberCategories).contains c

/-- Whether a character is white space. -/
def isWhiteSpace (c : Char) : Bool := whiteSpace.contains c

end Waymark.Unicode
