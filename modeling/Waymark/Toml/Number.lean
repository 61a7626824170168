import Waymark.Toml.Token
import Waymark.Toml.Value

/-! # Reading TOML: numbers and dates

Integers have 64 bits with a sign. Of floats and dates only the form is checked, and that a float
does not exceed what a double can hold.
-/

namespace Waymark.Toml

/-- Reads digits, between which there may be single underscores, as long as there are any. -/
def moreDigits (isDigit : Char → Bool) : Reader (List Char)
  | [] => some ([], [])
  | ['_'] => none
  | '_' :: c :: rest =>
      if isDigit c then prepend [c] (moreDigits isDigit rest) else none
  | c :: rest =>
      if isDigit c then prepend [c] (moreDigits isDigit rest) else some ([], c :: rest)

/-- Reads at least one digit. -/
def digits (isDigit : Char → Bool) : Reader (List Char)
  | [] => none
  | c :: rest => if isDigit c then prepend [c] (moreDigits isDigit rest) else none

/-- Reads a sign, if there is one, and answers whether it is a minus. -/
def sign : List Char → Bool × List Char
  | '+' :: rest => (false, rest)
  | '-' :: rest => (true, rest)
  | text => (false, text)

/-- Reads decimal digits without leading zeros. -/
def unsigned : Reader (List Char)
  | '0' :: rest => some (['0'], rest)
  | text => digits Char.isDigit text

/-- An integer of 64 bits. -/
def integer? (n : Int) : Option Value :=
  if Int64.minValue.toInt ≤ n ∧ n ≤ Int64.maxValue.toInt then some (.integer n) else none

/-- Reads the digits of an integer in another base. -/
def based (base : Nat) : Reader Value := fun text => do
  let isDigit (c : Char) : Bool := (Text.hexDigit? c).any (· < base)
  let (ds, rest) ← digits isDigit text
  let values ← ds.mapM Text.hexDigit?
  let value ← integer? (values.foldl (fun acc d => acc * base + d) 0 : Nat)
  pure (value, rest)

/-! ## Floats -/

/-- Half a unit in the last place above the largest double: what is not smaller rounds to
infinity. -/
def overflowBound : Nat := Nat.pow 2 1024 - Nat.pow 2 970

/-- Whether a decimal mantissa with a power of ten is too big for a double. The number of digits
decides all but the cases near the bound. -/
def overflows (mantissa : List Char) (scale : Int) : Bool :=
  let significant := mantissa.dropWhile (· == '0')
  let magnitude : Int := significant.length + scale
  let m := Text.decimalValue significant
  if significant.isEmpty || magnitude < 309 then false
  else if magnitude > 309 then true
  else if 0 ≤ scale then overflowBound ≤ m * Nat.pow 10 scale.toNat
  else overflowBound * Nat.pow 10 (-scale).toNat ≤ m

/-- Reads the part of a float behind the point. -/
def fraction : Reader (List Char)
  | '.' :: rest => digits Char.isDigit rest
  | _ => none

/-- Reads the power of ten of a float. -/
def exponent : Reader Int
  | c :: rest =>
      if c = 'e' ∨ c = 'E' then
        let (isMinus, rest) := sign rest
        (digits Char.isDigit rest).map fun read =>
          let n : Int := Text.decimalValue read.1
          (if isMinus then -n else n, read.2)
      else none
  | [] => none

/-- Reads a float that has a fraction, a power of ten or both. -/
def float : Reader Value := fun text => do
  let (isMinus, text) := sign text
  let (whole, text) ← unsigned text
  let (mantissa, scale, rest) ← match fraction text with
    | some (part, rest) =>
        let (power, rest) := (exponent rest).getD (0, rest)
        pure (whole ++ part, power - part.length, rest)
    | none => do
        let (power, rest) ← exponent text
        pure (whole, power, rest)
  if !isMinus && overflows mantissa scale then none else pure (.float, rest)

/-- Reads infinity or what is not a number. -/
def specialFloat : Reader Value := fun text =>
  match (sign text).2 with
  | 'i' :: 'n' :: 'f' :: rest => some (.float, rest)
  | 'n' :: 'a' :: 'n' :: rest => some (.float, rest)
  | _ => none

/-- Reads an integer. -/
def integer : Reader Value
  | '0' :: 'x' :: rest => based 16 rest
  | '0' :: 'o' :: rest => based 8 rest
  | '0' :: 'b' :: rest => based 2 rest
  | text => do
      let (isMinus, text) := sign text
      let (ds, rest) ← unsigned text
      let n : Int := Text.decimalValue ds
      let value ← integer? (if isMinus then -n else n)
      pure (value, rest)

/-! ## Dates and times -/

/-- Reads two digits whose value lies between bounds. -/
def twoDigits (low high : Nat) : Reader Nat
  | a :: b :: rest =>
      let n := Text.decimalValue [a, b]
      if a.isDigit ∧ b.isDigit ∧ low ≤ n ∧ n ≤ high then some (n, rest) else none
  | _ => none

/-- The text behind a character. -/
def expect (c : Char) : List Char → Option (List Char)
  | [] => none
  | d :: rest => if d = c then some rest else none

/-- The number of days of a month. -/
def daysOfMonth (year month : Nat) : Nat :=
  if month = 2 then
    if year % 4 = 0 ∧ (year % 100 ≠ 0 ∨ year % 400 = 0) then 29 else 28
  else if month ∈ [4, 6, 9, 11] then 30
  else 31

/-- The text behind a date. -/
def date? (text : List Char) : Option (List Char) := do
  let (century, text) ← twoDigits 0 99 text
  let (year, text) ← twoDigits 0 99 text
  let (month, text) ← twoDigits 1 12 (← expect '-' text)
  let (_, text) ← twoDigits 1 (daysOfMonth (century * 100 + year) month) (← expect '-' text)
  pure text

/-- The text behind the fraction of a second, if there is one. -/
def skipSecondFraction : List Char → List Char
  | '.' :: c :: rest => if c.isDigit then rest.dropWhile Char.isDigit else '.' :: c :: rest
  | text => text

/-- The text behind a time of day. A minute may have a leap second. -/
def time? (text : List Char) : Option (List Char) := do
  let (_, text) ← twoDigits 0 23 text
  let (_, text) ← twoDigits 0 59 (← expect ':' text)
  let (_, text) ← twoDigits 0 60 (← expect ':' text)
  pure (skipSecondFraction text)

/-- The text behind the distance from universal time. -/
def offset? : List Char → Option (List Char)
  | [] => none
  | c :: rest =>
      if c = 'Z' ∨ c = 'z' then some rest
      else if c = '+' ∨ c = '-' then do
        let (_, rest) ← twoDigits 0 23 rest
        let (_, rest) ← twoDigits 0 59 (← expect ':' rest)
        pure rest
      else none

/-- The text behind the time that goes with a date, if there is one. -/
def skipTimeOfDate (text : List Char) : List Char :=
  match text with
  | [] => []
  | c :: rest =>
      if c = 'T' ∨ c = 't' ∨ c = ' ' then
        match time? rest with
        | some rest => (offset? rest).getD rest
        | none => text
      else text

/-- Reads a date, a time of day, or both. -/
def dateTime : Reader Value := fun text =>
  match date? text with
  | some rest => some (.dateTime, skipTimeOfDate rest)
  | none => (time? text).map fun rest => (.dateTime, rest)

/-- Reads a number or a date. -/
def number : Reader Value := fun text =>
  ((dateTime text).or (float text)).or ((specialFloat text).or (integer text))

end Waymark.Toml
