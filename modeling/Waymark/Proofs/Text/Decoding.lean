import Mathlib.Data.List.Forall2
import Waymark.Proofs.Text.Replacement

/-! # What escaped text stands for

The rules that percent escapes and queries are read by, told by what is written and what it stands
for, and without the functions that read. Each function goes by its rule: it reads what the rule
tells and nothing else.
-/

namespace Waymark.Text

/-! ## Percent escapes -/

namespace Percent

/-- A byte is the hexadecimal digit of a number, in either case. -/
def IsHexDigit (b : UInt8) (n : Nat) : Prop :=
  n < 16 ∧ (Char.ofNat b.toNat).toLower = Nat.digitChar n

/-- Some bytes begin with a percent sign and two digits. -/
def BeginsEscape (bytes : List UInt8) : Prop :=
  ∃ first second rest high low, bytes = 0x25 :: first :: second :: rest ∧
    IsHexDigit first high ∧ IsHexDigit second low

/-- The bytes that escaped bytes stand for. A byte that begins no escape stands for itself, and so
does a percent sign. -/
inductive Unescapes : (escaped bytes : List UInt8) → Prop
  | nil : Unescapes [] []
  | escape {first second : UInt8} {high low : Nat} {rest bytes : List UInt8}
      (hfirst : IsHexDigit first high) (hsecond : IsHexDigit second low)
      (hrest : Unescapes rest bytes) :
      Unescapes (0x25 :: first :: second :: rest) ((high * 16 + low).toUInt8 :: bytes)
  | plain {b : UInt8} {rest bytes : List UInt8} (hnot : ¬ BeginsEscape (b :: rest))
      (hrest : Unescapes rest bytes) : Unescapes (b :: rest) (b :: bytes)

/-- The text that an escaped text stands for: its bytes lose their escapes, and what they are then
is read as text. -/
def Stands (escaped text : List Char) : Prop :=
  ∃ bytes, Unescapes (escaped.flatMap String.utf8EncodeChar) bytes ∧ Utf8.Reads bytes text

variable {b : UInt8} {n : Nat} {rest escaped bytes : List UInt8}

theorem isHexDigit_iff : IsHexDigit b n ↔ n < 16 ∧ hexValue? b = some n.toUInt8 := by
  have hall : ∀ k < 0x100, ∀ n < 16,
      (Char.ofNat k.toUInt8.toNat).toLower = Nat.digitChar n ↔
        hexValue? k.toUInt8 = some n.toUInt8 := by
    decide +kernel
  exact and_congr_right fun hn => Utf8.forall_byte hall b n hn

theorem isHexDigit_of_hexValue? {value : UInt8} (h : hexValue? b = some value) :
    IsHexDigit b value.toNat := by
  have hall : ∀ k < 0x100, ∀ value ∈ hexValue? k.toUInt8, value.toNat < 16 := by
    decide +kernel
  have hvalue : value.toNat.toUInt8 = value := UInt8.ofNat_toNat
  refine isHexDigit_iff.mpr ⟨Utf8.forall_byte hall b value h, ?_⟩
  rw [hvalue, h]

theorem unescape_of_not_beginsEscape (h : ¬ BeginsEscape (b :: rest)) :
    unescape (b :: rest) = b :: unescape rest := by
  by_cases hsign : b = percentSign
  · subst hsign
    match rest with
    | [] => rfl
    | [_] => rfl
    | first :: second :: rest =>
        change (if percentSign = percentSign then _ else _) = _
        rw [if_pos rfl]
        split
        next high low hhigh hlow =>
          exact absurd ⟨first, second, rest, _, _, rfl, isHexDigit_of_hexValue? hhigh,
            isHexDigit_of_hexValue? hlow⟩ h
        next => rfl
  · exact unescape_cons_ne hsign rest

theorem Unescapes.unescape_eq (h : Unescapes escaped bytes) : unescape escaped = bytes := by
  induction h with
  | nil => rfl
  | @escape first second high low rest bytes hfirst hsecond _ ih =>
      obtain ⟨-, hhigh⟩ := isHexDigit_iff.mp hfirst
      obtain ⟨-, hlow⟩ := isHexDigit_iff.mp hsecond
      change (if percentSign = percentSign then _ else _) = _
      rw [if_pos rfl, hhigh, hlow]
      dsimp only
      rw [ih]
      simp
  | plain hnot _ ih => rw [unescape_of_not_beginsEscape hnot, ih]

theorem unescapes_unescape (escaped : List UInt8) : Unescapes escaped (unescape escaped) := by
  fun_induction unescape escaped with
  | case1 => exact .nil
  | case2 b => exact .plain (by rintro ⟨_, _, _, _, _, ⟨⟩, -⟩) .nil
  | case3 b c =>
      exact .plain (by rintro ⟨_, _, _, _, _, ⟨⟩, -⟩)
        (.plain (by rintro ⟨_, _, _, _, _, ⟨⟩, -⟩) .nil)
  | case4 first second rest high low hlow hhigh ih =>
      have hbyte : (high.toNat * 16 + low.toNat).toUInt8 = high * 16 + low := by simp
      rw [← hbyte]
      exact .escape (isHexDigit_of_hexValue? hhigh) (isHexDigit_of_hexValue? hlow) ih
  | case5 first second rest hnot ih =>
      refine .plain ?_ ih
      rintro ⟨_, _, _, high, low, ⟨⟩, hhigh, hlow⟩
      exact hnot _ _ (isHexDigit_iff.mp hhigh).2 (isHexDigit_iff.mp hlow).2
  | case6 b c d rest hsign ih =>
      refine .plain ?_ ih
      rintro ⟨_, _, _, _, _, ⟨⟩, -⟩
      exact hsign rfl

/-- Escapes are read as they are told to be, and in no other way. -/
theorem unescapes_iff : Unescapes escaped bytes ↔ unescape escaped = bytes :=
  ⟨Unescapes.unescape_eq, fun h => h ▸ unescapes_unescape escaped⟩

theorem stands_iff {escaped text : List Char} : Stands escaped text ↔ decode escaped = text := by
  have hencode : escaped.flatMap String.utf8EncodeChar = Utf8.encode escaped :=
    congrArg (escaped.flatMap ·) (funext Utf8.utf8EncodeChar_eq)
  unfold Stands
  rw [hencode]
  simp only [unescapes_iff, Utf8.reads_iff, exists_eq_left']
  rfl

end Percent

/-! ## Queries -/

/-- A text is cut into parts at each separator. -/
structure IsCut (sep : Char) (text : List Char) (parts : List (List Char)) : Prop where
  joined : [sep].intercalate parts = text
  nonempty : parts ≠ []
  plain : ∀ part ∈ parts, sep ∉ part

theorem joinAll_eq_intercalate (sep : Char) (parts : List (List Char)) :
    joinAll sep parts = [sep].intercalate parts := by
  induction parts with
  | nil => rfl
  | cons part parts ih =>
      cases parts with
      | nil => simp [joinAll]
      | cons next parts =>
          change part ++ sep :: joinAll sep (next :: parts) = _
          rw [ih]
          simp

theorem not_mem_of_mem_splitAll {sep : Char} {text part : List Char}
    (h : part ∈ splitAll sep text) : sep ∉ part := by
  induction text generalizing part with
  | nil =>
      rw [List.mem_singleton.mp h]
      exact List.not_mem_nil
  | cons c text ih =>
      unfold splitAll at h
      split at h
      next =>
        rcases List.mem_cons.mp h with rfl | h
        · exact List.not_mem_nil
        · exact ih h
      next hsep =>
        split at h
        next hnil => exact absurd hnil (splitAll_ne_nil sep text)
        next first parts hparts =>
          rw [hparts] at ih
          rcases List.mem_cons.mp h with rfl | h
          · rw [List.mem_cons, not_or]
            exact ⟨Ne.symm hsep, ih List.mem_cons_self⟩
          · exact ih (List.mem_cons_of_mem _ h)

theorem isCut_iff {sep : Char} {text : List Char} {parts : List (List Char)} :
    IsCut sep text parts ↔ splitAll sep text = parts := by
  constructor
  · rintro ⟨rfl, hnonempty, hplain⟩
    rw [← joinAll_eq_intercalate, splitAll_joinAll hnonempty hplain]
  · rintro rfl
    refine ⟨?_, splitAll_ne_nil sep text, fun _ => not_mem_of_mem_splitAll⟩
    rw [← joinAll_eq_intercalate, joinAll_splitAll]

namespace Form

/-- The text that a name or a value stands for. -/
def Stands (written text : List Char) : Prop := Percent.Stands (unplus written) text

/-- The pair that a part of a query stands for. Only its first equals sign separates. -/
inductive StandsPair : (part : List Char) → List Char × List Char → Prop
  | assigned {written assigned name value : List Char} (hequals : '=' ∉ written)
      (hname : Stands written name) (hvalue : Stands assigned value) :
      StandsPair (written ++ '=' :: assigned) (name, value)
  | bare {written name : List Char} (hequals : '=' ∉ written) (hname : Stands written name) :
      StandsPair written (name, [])

/-- The pairs that a query stands for: one for each part between ampersands that is not empty. -/
def Reads (query : List Char) (pairs : List (List Char × List Char)) : Prop :=
  ∃ parts, IsCut '&' query parts ∧ List.Forall₂ StandsPair (parts.filter (· ≠ [])) pairs

theorem stands_iff {written text : List Char} : Stands written text ↔ decode written = text :=
  Percent.stands_iff

theorem standsPair_iff {part : List Char} {pair : List Char × List Char} :
    StandsPair part pair ↔ parsePart part = pair := by
  unfold parsePart
  constructor
  · rintro (⟨hequals, hname, hvalue⟩ | ⟨hequals, hname⟩)
    · rw [splitFirst_eq_some_iff.mpr ⟨rfl, hequals⟩, ← stands_iff.mp hname,
        ← stands_iff.mp hvalue]
    · rw [splitFirst_eq_none_iff.mpr hequals, ← stands_iff.mp hname]
  · rintro rfl
    cases hsplit : splitFirst '=' part with
    | none => exact .bare (splitFirst_eq_none_iff.mp hsplit) (stands_iff.mpr rfl)
    | some parts =>
        obtain ⟨rfl, hequals⟩ := splitFirst_eq_some_iff.mp hsplit
        exact .assigned hequals (stands_iff.mpr rfl) (stands_iff.mpr rfl)

/-- A query is read as the pairs it is told to stand for, and as no other ones. -/
theorem reads_iff {query : List Char} {pairs : List (List Char × List Char)} :
    Reads query pairs ↔ parse query = pairs := by
  have hpair : StandsPair = fun part pair => parsePart part = pair :=
    funext₂ fun _ _ => propext standsPair_iff
  unfold Reads parse
  simp only [isCut_iff, exists_eq_left']
  rw [hpair, ← List.forall₂_map_left_iff, List.forall₂_eq_eq_eq]

/-- An escaped separator separates nothing, and an escape without its digits is none. -/
example : parse "a+%26=%C3%A9=&&b%4".toList =
    [("a &".toList, "é=".toList), ("b%4".toList, [])] := by
  cbv

end Form

end Waymark.Text
