import Waymark.Proofs.Request.Normalize
import Waymark.Proofs.Text.Case
import Waymark.Proofs.Text.Decoding
import Waymark.Proofs.Text.Slice

/-! # What a request loses on the way to its normal form

The query, the mount point, the locale segment and the slashes at the end, and nothing else: what
was decoded can be put together again from these and the normal form. The normal form can be had
by cutting bytes, and no cut falls inside a character or past the end of the text.
-/

namespace Waymark

/-- Trailing characters go, and all that goes is those. -/
theorem Text.exists_dropTrailing (c : Char) (text : List Char) :
    ∃ count, text = dropTrailing c text ++ List.replicate count c := by
  have htaken : text.reverse.takeWhile (· == c) =
      List.replicate (text.reverse.takeWhile (· == c)).length c := by
    rw [List.eq_replicate_iff]
    exact ⟨rfl, fun d hd => beq_iff_eq.mp (List.all_eq_true.mp List.all_takeWhile d hd)⟩
  refine ⟨(text.reverse.takeWhile (· == c)).length, ?_⟩
  have hsplit := @List.takeWhile_append_dropWhile _ (· == c) text.reverse
  rw [htaken, List.reverse_eq_iff.symm, List.reverse_append, List.reverse_replicate] at hsplit
  exact hsplit.symm

namespace Request

open Text (SameUpToCase)
open Text.Utf8 (cut? encode lowerByte)

/-! ## The mount point -/

/-- What stands in front of the first question mark. -/
def BeforeQuery (raw path : List Char) : Prop :=
  '?' ∉ path ∧ (raw = path ∨ ∃ query, raw = path ++ '?' :: query)

/-- There is a mount point, and the text begins with it up to case. -/
def IsBelow (base text : List Char) : Prop :=
  base ≠ [] ∧ ∃ front rest, text = front ++ rest ∧ SameUpToCase front base

/-- The path of a text below a mount point: a slash takes the place of the mount point, and one is
put in front of what is not below it and has none. -/
inductive Mounts (base text : List Char) : List Char → Prop
  | below {front rest : List Char} (hbase : base ≠ []) (htext : text = front ++ rest)
      (hfront : SameUpToCase front base) : Mounts base text ('/' :: rest)
  | absolute (hnot : ¬ IsBelow base text) (hfront : text.head? = some '/') :
      Mounts base text text
  | relative (hnot : ¬ IsBelow base text) (hfront : text.head? ≠ some '/') :
      Mounts base text ('/' :: text)

theorem beforeQuery_rawPath (raw : List Char) : BeforeQuery raw (rawPath raw) := by
  unfold BeforeQuery rawPath
  cases hsplit : Text.splitFirst '?' raw with
  | none => exact ⟨Text.splitFirst_eq_none_iff.mp hsplit, .inl rfl⟩
  | some parts =>
      obtain ⟨hraw, hpath⟩ := Text.splitFirst_eq_some_iff.mp hsplit
      exact ⟨hpath, .inr ⟨parts.2, hraw⟩⟩

theorem BeforeQuery.eq_rawPath {raw path : List Char} (h : BeforeQuery raw path) :
    path = rawPath raw := by
  obtain ⟨hmark, rfl | ⟨query, rfl⟩⟩ := h <;> unfold rawPath
  · rw [Text.splitFirst_eq_none_iff.mpr hmark]
  · rw [Text.splitFirst_eq_some_iff.mpr ⟨rfl, hmark⟩]

theorem replaceBase_below {base front : List Char} (hbase : base ≠ [])
    (hfront : SameUpToCase front base) (rest : List Char) :
    replaceBase base (front ++ rest) = '/' :: rest := by
  unfold replaceBase
  rw [if_neg hbase, Text.dropLeading?_eq_some_iff.mpr ⟨front, rfl, hfront⟩]

theorem replaceBase_of_not_isBelow {base text : List Char} (h : ¬ IsBelow base text) :
    replaceBase base text = text := by
  unfold replaceBase
  split
  next => rfl
  next hbase =>
    cases hdrop : Text.dropLeading? base text with
    | none => rfl
    | some rest =>
        obtain ⟨front, htext, hfront⟩ := Text.dropLeading?_eq_some_iff.mp hdrop
        exact absurd ⟨hbase, front, rest, htext, hfront⟩ h

/-- There is exactly one path of a text below a mount point. -/
theorem mounts_iff {base text mounted : List Char} :
    Mounts base text mounted ↔ mounted = withLeadingSlash (replaceBase base text) := by
  constructor
  · rintro (⟨hbase, rfl, hfront⟩ | ⟨hnot, hfront⟩ | ⟨hnot, hfront⟩)
    · rw [replaceBase_below hbase hfront]
      rfl
    · obtain ⟨rest, rfl⟩ := List.head?_eq_some_iff.mp hfront
      rw [replaceBase_of_not_isBelow hnot]
      rfl
    · rw [replaceBase_of_not_isBelow hnot, withLeadingSlash_of_front hfront]
  · rintro rfl
    by_cases hbelow : IsBelow base text
    · obtain ⟨hbase, front, rest, rfl, hfront⟩ := hbelow
      rw [replaceBase_below hbase hfront]
      exact .below hbase rfl hfront
    · rw [replaceBase_of_not_isBelow hbelow]
      by_cases hfront : text.head? = some '/'
      · obtain ⟨rest, rfl⟩ := List.head?_eq_some_iff.mp hfront
        exact .absolute hbelow hfront
      · rw [withLeadingSlash_of_front hfront]
        exact .relative hbelow hfront

theorem exists_withLeadingSlash (text : List Char) :
    ∃ rest, withLeadingSlash text = '/' :: rest := by
  unfold withLeadingSlash
  split
  · exact ⟨_, rfl⟩
  · exact ⟨_, rfl⟩

/-! ## The locale segment -/

/-- Two small letters of ASCII. -/
def IsLocale (code : List Char) : Prop :=
  ∃ a b, code = [a, b] ∧ ('a' ≤ a ∧ a ≤ 'z') ∧ 'a' ≤ b ∧ b ≤ 'z'

/-- A path is a locale segment with what stands behind it. -/
structure SplitsLocale (path code rest : List Char) : Prop where
  locale : IsLocale code
  path : path = '/' :: code ++ rest
  rest : rest = [] ∨ ∃ more, rest = '/' :: more ∧ '\n' ∉ more

theorem isLower_iff {c : Char} : isLower c = true ↔ 'a' ≤ c ∧ c ≤ 'z' := by
  unfold isLower
  rw [Bool.and_eq_true, decide_eq_true_eq, decide_eq_true_eq]

theorem splitLocale?_eq_some_iff {path code rest : List Char} :
    splitLocale? path = some (code, rest) ↔ SplitsLocale path code rest := by
  constructor
  · intro h
    unfold splitLocale? at h
    split at h
    next a b behind =>
      split at h
      next hlower =>
        rw [Bool.and_eq_true, isLower_iff, isLower_iff] at hlower
        split at h
        next =>
          cases h
          exact ⟨⟨a, b, rfl, hlower⟩, rfl, .inl rfl⟩
        next more =>
          split at h
          next => cases h
          next hbreak =>
            cases h
            exact ⟨⟨a, b, rfl, hlower⟩, rfl, .inr ⟨more, rfl, hbreak⟩⟩
        next => cases h
      next => cases h
    next => cases h
  · rintro ⟨⟨a, b, rfl, ha, hb⟩, rfl, rfl | ⟨more, rfl, hbreak⟩⟩
    · simp [splitLocale?, isLower_iff.mpr ha, isLower_iff.mpr hb]
    · simp [splitLocale?, isLower_iff.mpr ha, isLower_iff.mpr hb, hbreak]

/-- A path begins with a locale segment, which ends it or is followed by a slash and text without
line breaks. -/
def BeginsWithLocale (path code : List Char) : Prop :=
  IsLocale code ∧
    (path = '/' :: code ∨ ∃ rest, path = '/' :: code ++ '/' :: rest ∧ '\n' ∉ rest)

theorem beginsWithLocale_iff {path code : List Char} :
    BeginsWithLocale path code ↔ ∃ rest, SplitsLocale path code rest := by
  constructor
  · rintro ⟨hcode, rfl | ⟨rest, rfl, hbreak⟩⟩
    · exact ⟨[], hcode, (List.append_nil _).symm, .inl rfl⟩
    · exact ⟨_, hcode, rfl, .inr ⟨rest, rfl, hbreak⟩⟩
  · rintro ⟨rest, hcode, rfl, rfl | ⟨more, rfl, hbreak⟩⟩
    · exact ⟨hcode, .inl (List.append_nil _)⟩
    · exact ⟨hcode, .inr ⟨more, rfl, hbreak⟩⟩

/-! ## Cutting bytes -/

/-- Whether the bytes that a text begins with are those of the mount point up to case. -/
def isBelow (base text : List Char) : Bool :=
  base ≠ [] && (cut? (encode base).length text).any fun parts =>
    (encode parts.1).map lowerByte == (encode base).map lowerByte

/-- Replaces the mount point by cutting as many bytes as it has. -/
def cutBase? (base text : List Char) : Option (List Char) :=
  if isBelow base text then
    (cut? (encode base).length text).map fun parts => '/' :: parts.2
  else some text

/-- Takes the locale segment off by cutting three bytes. -/
def cutLocale? (stripLocale : Bool) (mounted : List Char) :
    Option (Option (List Char) × List Char) :=
  let code := if stripLocale then (splitLocale? mounted).map Prod.fst else none
  if code.isSome then (cut? 3 mounted).map fun parts => (code, parts.2) else some (code, mounted)

/-- The normal form of a request by cutting bytes. There is none if a cut falls inside a character
or past the end. -/
def normalizeBytes? (raw base : String) (stripLocale : Bool) : Option NormalizedPath := do
  let replaced ← cutBase? base.toList (Text.Percent.decode (rawPath raw.toList))
  let (code, path) ← cutLocale? stripLocale (withLeadingSlash replaced)
  pure
    { path := String.ofList (Text.dropTrailing '/' path)
      localeCode := code.map String.ofList
      indexScript := path == frontScriptPath }

theorem isBelow_iff {base text : List Char} : isBelow base text = true ↔ IsBelow base text := by
  unfold isBelow IsBelow
  simp only [Bool.and_eq_true, decide_eq_true_eq, Option.any_eq_true, Prod.exists,
    Text.Utf8.cut?_eq_some_iff, beq_iff_eq, Text.Utf8.map_lowerByte_eq_iff]
  refine and_congr_right fun _ => ?_
  constructor
  · rintro ⟨front, rest, ⟨rfl, -⟩, hfront⟩
    exact ⟨front, rest, rfl, hfront⟩
  · rintro ⟨front, rest, rfl, hfront⟩
    exact ⟨front, rest, ⟨rfl, Text.Utf8.length_encode_of_same hfront⟩, hfront⟩

theorem cutBase?_eq (base text : List Char) : cutBase? base text = some (replaceBase base text) := by
  unfold cutBase?
  split
  next hbelow =>
    obtain ⟨hbase, front, rest, rfl, hfront⟩ := isBelow_iff.mp hbelow
    rw [Text.Utf8.cut?_eq_some_iff.mpr ⟨rfl, Text.Utf8.length_encode_of_same hfront⟩,
      replaceBase_below hbase hfront]
    rfl
  next hnot => rw [replaceBase_of_not_isBelow (mt isBelow_iff.mpr hnot)]

/-- A slash and a locale are three bytes. -/
theorem SplitsLocale.length_encode {path code rest : List Char} (h : SplitsLocale path code rest) :
    (encode ('/' :: code)).length = 3 := by
  obtain ⟨a, b, rfl, ha, hb⟩ := h.locale
  have hletter : ∀ {c : Char}, c ≤ 'z' → (Text.Utf8.encodeChar c).length = 1 := by
    intro c hc
    have hascii : c.toNat < 0x80 := Nat.lt_of_le_of_lt (UInt32.le_iff_toNat_le.mp hc) (by decide)
    unfold Text.Utf8.encodeChar
    rw [if_pos hascii]
    rfl
  simp only [Text.Utf8.encode_cons, List.length_append, hletter ha.2, hletter hb.2]
  rfl

theorem cutLocale?_eq (stripLocale : Bool) (mounted : List Char) :
    cutLocale? stripLocale mounted = some (localeAndPath stripLocale mounted) := by
  unfold cutLocale? localeAndPath
  cases stripLocale with
  | false => rfl
  | true =>
      cases hsplit : splitLocale? mounted with
      | none => simp
      | some parts =>
          have hlocale := splitLocale?_eq_some_iff.mp hsplit
          have hcut : cut? 3 mounted = some ('/' :: parts.1, parts.2) :=
            Text.Utf8.cut?_eq_some_iff.mpr ⟨hlocale.path, hlocale.length_encode⟩
          simp [hcut]

theorem normalizeBytes?_eq (raw base : String) (stripLocale : Bool) :
    normalizeBytes? raw base stripLocale = some (normalize raw base stripLocale) := by
  unfold normalizeBytes? normalize mountedPath
  simp only [cutBase?_eq, cutLocale?_eq, Option.bind_eq_bind, Option.bind_some, Option.pure_def]

/-! ## What is kept -/

/-- The segment of a locale in a path. -/
def localeSegment : Option String → List Char
  | some code => '/' :: code.toList
  | none => []

/-- A normal form and the path below the mount point that it was made from. -/
structure IsNormalForm (mounted : List Char) (stripLocale : Bool) (n : NormalizedPath) : Prop where
  /-- A locale is taken off exactly if that is asked for and the path begins with it. -/
  locale : ∀ code : String, n.localeCode = some code ↔
    stripLocale = true ∧ BeginsWithLocale mounted code.toList
  /-- The path is the locale segment, the normal form and slashes. -/
  kept : ∃ count, mounted =
    localeSegment n.localeCode ++ n.path.toList ++ List.replicate count '/'
  shape : n.path = "" ∨ n.path.toList.head? = some '/' ∧ n.path.toList.getLast? ≠ some '/'
  /-- Slashes at the end count for the front script. -/
  script : n.indexScript = true ↔
    mounted = localeSegment n.localeCode ++ "/index.php".toList

variable {stripLocale : Bool} {mounted : List Char}

/-- The locale segment that is taken off, and the path that remains, which is empty or begins with
a slash. -/
theorem localeAndPath_spec (hfront : ∃ rest, mounted = '/' :: rest) :
    (∀ code, (localeAndPath stripLocale mounted).1 = some code ↔
      stripLocale = true ∧ BeginsWithLocale mounted code) ∧
    mounted = localeSegment ((localeAndPath stripLocale mounted).1.map String.ofList) ++
      (localeAndPath stripLocale mounted).2 ∧
    ((localeAndPath stripLocale mounted).2 = [] ∨
      (localeAndPath stripLocale mounted).2.head? = some '/') := by
  obtain ⟨rest, rfl⟩ := hfront
  unfold localeAndPath
  cases stripLocale with
  | false => exact ⟨by simp, rfl, .inr rfl⟩
  | true =>
      simp only [beginsWithLocale_iff, ← splitLocale?_eq_some_iff]
      cases hsplit : splitLocale? ('/' :: rest) with
      | none => exact ⟨by simp, rfl, .inr rfl⟩
      | some parts =>
          have hlocale := splitLocale?_eq_some_iff.mp hsplit
          refine ⟨by simp [Prod.ext_iff], ?_, ?_⟩
          · simp only [if_true, Option.map_some, localeSegment, String.toList_ofList]
            exact hlocale.path
          · rcases hlocale.rest with hrest | ⟨more, hrest, -⟩
            · exact .inl hrest
            · exact .inr (congrArg List.head? hrest)

theorem head?_dropTrailing {text : List Char} (hfront : text = [] ∨ text.head? = some '/') :
    Text.dropTrailing '/' text = [] ∨ (Text.dropTrailing '/' text).head? = some '/' := by
  obtain ⟨count, htext⟩ := Text.exists_dropTrailing '/' text
  cases hdrop : Text.dropTrailing '/' text with
  | nil => exact .inl rfl
  | cons c rest =>
      rw [hdrop] at htext
      rw [htext] at hfront
      exact .inr (hfront.resolve_left (List.cons_ne_nil _ _))

theorem isNormalForm_of_mounted (hfront : ∃ rest, mounted = '/' :: rest) :
    IsNormalForm mounted stripLocale
      { path := String.ofList (Text.dropTrailing '/' (localeAndPath stripLocale mounted).2)
        localeCode := (localeAndPath stripLocale mounted).1.map String.ofList
        indexScript := (localeAndPath stripLocale mounted).2 == frontScriptPath } := by
  obtain ⟨hlocale, hmounted, hshape⟩ := @localeAndPath_spec stripLocale _ hfront
  obtain ⟨count, hpath⟩ := Text.exists_dropTrailing '/' (localeAndPath stripLocale mounted).2
  refine ⟨fun code => ?_, ⟨count, ?_⟩, ?_, ?_⟩
  · rw [← hlocale, Option.map_eq_some_iff]
    constructor
    · rintro ⟨letters, hletters, rfl⟩
      rwa [String.toList_ofList]
    · intro hcode
      exact ⟨_, hcode, String.ofList_toList⟩
  · rw [String.toList_ofList, List.append_assoc, ← hpath]
    exact hmounted
  · rw [String.toList_ofList]
    rcases head?_dropTrailing hshape with hempty | hslash
    · rw [hempty]
      exact .inl rfl
    · exact .inr ⟨hslash, getLast?_dropTrailing '/' _⟩
  · rw [beq_iff_eq]
    constructor
    · intro hscript
      rw [hscript] at hmounted
      exact hmounted
    · intro hscript
      exact List.append_cancel_left (hmounted.symm.trans hscript)

/-- The normal form of a request is one of what its path stands for below the mount point, whatever
that is. -/
theorem isNormalForm_of_stands {raw base : String} {path decoded : List Char}
    (hpath : BeforeQuery raw.toList path) (hdecoded : Text.Percent.Stands path decoded)
    (hmounted : Mounts base.toList decoded mounted) (stripLocale : Bool) :
    IsNormalForm mounted stripLocale (normalize raw base stripLocale) := by
  obtain rfl := hpath.eq_rawPath
  obtain rfl := Text.Percent.stands_iff.mp hdecoded
  obtain rfl := mounts_iff.mp hmounted
  exact isNormalForm_of_mounted (exists_withLeadingSlash _)

/-- A raw request loses its query, its mount point, its locale segment and slashes at its end on
the way to its normal form, and nothing else. The normal form can be had by cutting bytes, and no
cut falls inside a character or past the end. -/
theorem isNormalForm_normalize (raw base : String) (stripLocale : Bool) :
    ∃ path mounted, BeforeQuery raw.toList path ∧
      (∀ text, Mounts base.toList (Text.Percent.decode path) text ↔ text = mounted) ∧
      IsNormalForm mounted stripLocale (normalize raw base stripLocale) ∧
      normalizeBytes? raw base stripLocale = some (normalize raw base stripLocale) :=
  ⟨rawPath raw.toList, mountedPath base.toList raw.toList, beforeQuery_rawPath _,
    fun _ => mounts_iff, isNormalForm_of_mounted (exists_withLeadingSlash _),
    normalizeBytes?_eq raw base stripLocale⟩

/-- Escaped letters below a mount point, behind a locale. -/
example : normalize "/SHOP/en/caf%C3%A9//?page=2" "/shop/" true = ⟨"/café", some "en", false⟩ := by
  decide +kernel

end Request

end Waymark
