import Waymark.Proofs.Text.Case
import Waymark.Text.Form

/-! # Reading what was written as a query

Every byte of a name or a value is written in a way of its own, without ampersands and equals
signs. So a query is cut where its parts were put together, and each part is read back.
-/

namespace Waymark.Text

/-! ## Percent escapes -/

namespace Percent

theorem unescape_cons_ne {b : UInt8} (hne : b ≠ percentSign) (rest : List UInt8) :
    unescape (b :: rest) = b :: unescape rest := by
  match rest with
  | [] => rfl
  | [_] => rfl
  | _ :: _ :: _ => exact if_neg hne

/-- Bytes without a percent sign stand for themselves, whatever follows them. -/
theorem unescape_append {bytes : List UInt8} (h : percentSign ∉ bytes) (more : List UInt8) :
    unescape (bytes ++ more) = bytes ++ unescape more := by
  induction bytes with
  | nil => rfl
  | cons b bytes ih =>
      have hne : b ≠ percentSign := fun heq => h (heq ▸ List.mem_cons_self)
      rw [List.cons_append, unescape_cons_ne hne, ih fun hmem => h (List.mem_cons_of_mem _ hmem)]
      rfl

theorem unescape_eq_self {bytes : List UInt8} (h : percentSign ∉ bytes) :
    unescape bytes = bytes := by
  have hread := unescape_append h []
  rwa [List.append_nil, unescape, List.append_nil] at hread

theorem hexValue?_hexDigit {n : UInt8} (h : n.toNat < 0x10) :
    (Utf8.encodeChar (hexDigit n)).map hexValue? = [some n] := by
  have hall : ∀ n < 0x10,
      (Utf8.encodeChar (hexDigit n.toUInt8)).map hexValue? = [some n.toUInt8] := by
    decide
  have hn : n.toNat.toUInt8 = n := UInt8.ofNat_toNat
  rw [← hn]
  exact hall n.toNat h

theorem hexDigit_ne_plus {n : UInt8} (h : n.toNat < 0x10) : hexDigit n ≠ '+' := by
  have hall : ∀ n < 0x10, hexDigit n.toUInt8 ≠ '+' := by
    decide
  have hn : n.toNat.toUInt8 = n := UInt8.ofNat_toNat
  rw [← hn]
  exact hall n.toNat h

/-- The digit of a number below sixteen is one byte, which is read as the number. -/
theorem encodeChar_hexDigit {n : UInt8} (h : n.toNat < 0x10) :
    ∃ digit, Utf8.encodeChar (hexDigit n) = [digit] ∧ hexValue? digit = some n := by
  have hdigit := hexValue?_hexDigit h
  obtain ⟨digit, tail, hbytes, hvalue, htail⟩ := List.map_eq_cons_iff.mp hdigit
  rw [List.map_eq_nil_iff.mp htail] at hbytes
  exact ⟨digit, hbytes, hvalue⟩

theorem hexValue?_lowerByte (b : UInt8) : hexValue? (Utf8.lowerByte b) = hexValue? b := by
  have hall : ∀ n < 0x100, hexValue? (Utf8.lowerByte n.toUInt8) = hexValue? n.toUInt8 := by
    decide +kernel
  exact Utf8.forall_byte hall b

/-- A digit in either case is one byte, which is read as its number. -/
theorem encodeChar_of_digit {n : UInt8} (h : n.toNat < 0x10) {digit : Char}
    (hdigit : digit.toLower = (hexDigit n).toLower) :
    ∃ b, Utf8.encodeChar digit = [b] ∧ hexValue? b = some n := by
  obtain ⟨b, hbyte, hvalue⟩ := encodeChar_hexDigit h
  have hsame := Utf8.map_lowerByte_encodeChar digit
  rw [hdigit, ← Utf8.map_lowerByte_encodeChar, hbyte] at hsame
  obtain ⟨d, tail, hbytes, hlower, htail⟩ := List.map_eq_cons_iff.mp hsame
  rw [List.map_eq_nil_iff.mp htail] at hbytes
  refine ⟨d, hbytes, ?_⟩
  rw [← hexValue?_lowerByte, hlower, hexValue?_lowerByte, hvalue]

/-- An escape in either case is read as its byte, whatever follows it. -/
theorem unescape_of_same {b : UInt8} {escape : List Char}
    (h : SameUpToCase escape (escapeByte b)) (rest : List UInt8) :
    unescape (Utf8.encode escape ++ rest) = b :: unescape rest := by
  obtain ⟨sign, digits, rfl, hsign, hdigits⟩ := List.map_eq_cons_iff.mp h
  obtain ⟨high, digits, rfl, hhigh, hdigits⟩ := List.map_eq_cons_iff.mp hdigits
  obtain ⟨low, digits, rfl, hlow, hnil⟩ := List.map_eq_cons_iff.mp hdigits
  obtain rfl := List.map_eq_nil_iff.mp hnil
  obtain rfl : sign = '%' := eq_of_toLower (by decide) hsign
  have hbound := b.toNat_lt
  have hdiv : (b / 16).toNat = b.toNat / 16 := UInt8.toNat_div b 16
  have hmod : (b % 16).toNat = b.toNat % 16 := UInt8.toNat_mod b 16
  obtain ⟨first, hfirst, hfirstValue⟩ := encodeChar_of_digit (by omega) hhigh
  obtain ⟨second, hsecond, hsecondValue⟩ := encodeChar_of_digit (by omega) hlow
  have hencode : Utf8.encode ['%', high, low] = [percentSign, first, second] := by
    simp only [Utf8.encode, List.flatMap_cons, List.flatMap_nil, hfirst, hsecond]
    rfl
  have hsum : b / 16 * 16 + b % 16 = b := by
    apply UInt8.toNat_inj.mp
    rw [UInt8.toNat_add, UInt8.toNat_mul, hdiv, hmod]
    change (b.toNat / 16 * 16 % 256 + b.toNat % 16) % 256 = b.toNat
    omega
  rw [hencode]
  change (if percentSign = percentSign then _ else _) = _
  rw [if_pos rfl, hfirstValue, hsecondValue]
  dsimp only
  rw [hsum]
  rfl

theorem unescape_escapeByte (b : UInt8) (rest : List UInt8) :
    unescape (Utf8.encode (escapeByte b) ++ rest) = b :: unescape rest :=
  unescape_of_same (.refl _) rest

theorem percentSign_not_mem_encode {text : List Char} (h : '%' ∉ text) :
    percentSign ∉ Utf8.encode text := by
  intro hmem
  obtain ⟨c, hc, hbyte⟩ := List.mem_flatMap.mp hmem
  rw [Utf8.eq_of_mem_encodeChar hbyte (by decide)] at hc
  exact h hc

/-- A text without a percent sign stands for itself. -/
theorem decode_eq_self {text : List Char} (h : '%' ∉ text) : decode text = text := by
  rw [decode, unescape_eq_self (percentSign_not_mem_encode h), Utf8.decode_encode]

end Percent

/-! ## Cutting at separators -/

theorem splitAll_of_not_mem {sep : Char} {part : List Char} (h : sep ∉ part) :
    splitAll sep part = [part] := by
  induction part with
  | nil => rfl
  | cons c part ih =>
      have hne : c ≠ sep := fun heq => h (heq ▸ List.mem_cons_self)
      rw [splitAll, if_neg hne, ih fun hmem => h (List.mem_cons_of_mem _ hmem)]

theorem splitAll_append {sep : Char} {part : List Char} (h : sep ∉ part) (rest : List Char) :
    splitAll sep (part ++ sep :: rest) = part :: splitAll sep rest := by
  induction part with
  | nil => exact if_pos rfl
  | cons c part ih =>
      have hne : c ≠ sep := fun heq => h (heq ▸ List.mem_cons_self)
      rw [List.cons_append, splitAll, if_neg hne, ih fun hmem => h (List.mem_cons_of_mem _ hmem)]

/-- Parts without separators are what their text is cut into. -/
theorem splitAll_joinAll {sep : Char} {parts : List (List Char)} (hne : parts ≠ [])
    (h : ∀ part ∈ parts, sep ∉ part) : splitAll sep (joinAll sep parts) = parts := by
  induction parts with
  | nil => exact absurd rfl hne
  | cons part parts ih =>
      have hpart := h part List.mem_cons_self
      cases parts with
      | nil => exact splitAll_of_not_mem hpart
      | cons next parts =>
          rw [joinAll, splitAll_append hpart,
            ih (List.cons_ne_nil _ _) fun part hmem => h part (List.mem_cons_of_mem _ hmem)]
          intro hparts
          cases hparts

/-! ## Names and values -/

namespace Form

/-- Plus signs are read as blanks. -/
def unplus (text : List Char) : List Char := text.map fun c => if c = '+' then ' ' else c

theorem unplus_plain : ∀ n < 0x100, isPlain n.toUInt8 = true →
    Utf8.encode (unplus [Char.ofNat n]) = [n.toUInt8] ∧ n.toUInt8 ≠ Percent.percentSign := by
  decide +kernel

theorem separators_not_mem_encodeByte (b : UInt8) : '&' ∉ encodeByte b ∧ '=' ∉ encodeByte b := by
  have hall : ∀ n < 0x100, '&' ∉ encodeByte n.toUInt8 ∧ '=' ∉ encodeByte n.toUInt8 := by
    decide +kernel
  exact Utf8.forall_byte hall b

theorem unplus_escapeByte (b : UInt8) : unplus (Percent.escapeByte b) = Percent.escapeByte b := by
  have hdiv : (b / 16).toNat = b.toNat / 16 := UInt8.toNat_div b 16
  have hmod : (b % 16).toNat = b.toNat % 16 := UInt8.toNat_mod b 16
  have hbound := b.toNat_lt
  have hhigh : Percent.hexDigit (b / 16) ≠ '+' := Percent.hexDigit_ne_plus (by omega)
  have hlow : Percent.hexDigit (b % 16) ≠ '+' := Percent.hexDigit_ne_plus (by omega)
  simp [unplus, Percent.escapeByte, hhigh, hlow]

/-- A byte is read back from what was written for it, whatever follows that. -/
theorem unescape_encodeByte (b : UInt8) (rest : List UInt8) :
    Percent.unescape (Utf8.encode (unplus (encodeByte b)) ++ rest) =
      b :: Percent.unescape rest := by
  unfold encodeByte
  split
  next hplain =>
    have hb : b.toNat.toUInt8 = b := UInt8.ofNat_toNat
    have hbyte := unplus_plain b.toNat b.toNat_lt
    rw [hb] at hbyte
    obtain ⟨hencode, hne⟩ := hbyte hplain
    rw [hencode]
    exact Percent.unescape_cons_ne hne rest
  next =>
    split
    next hspace =>
      subst hspace
      exact Percent.unescape_cons_ne (by decide) rest
    next =>
      rw [unplus_escapeByte]
      exact Percent.unescape_escapeByte b rest

/-- A name or value is read back. -/
theorem decode_encode (text : List Char) : decode (encode text) = text := by
  -- byte by byte; that the bytes are those of a text matters only in the end
  have hbytes : ∀ bytes : List UInt8,
      Percent.unescape (Utf8.encode (unplus (bytes.flatMap encodeByte))) = bytes := by
    intro bytes
    induction bytes with
    | nil => rfl
    | cons b bytes ih =>
        have hsplit : unplus ((b :: bytes).flatMap encodeByte) =
            unplus (encodeByte b) ++ unplus (bytes.flatMap encodeByte) := List.map_append
        rw [hsplit, Utf8.encode_append, unescape_encodeByte, ih]
  change Utf8.decode (Percent.unescape (Utf8.encode (unplus (encode text)))) = text
  rw [encode, hbytes, Utf8.decode_encode]

theorem separators_not_mem_encode (text : List Char) : '&' ∉ encode text ∧ '=' ∉ encode text := by
  constructor <;> intro hmem <;> obtain ⟨b, -, hchar⟩ := List.mem_flatMap.mp hmem
  · exact (separators_not_mem_encodeByte b).1 hchar
  · exact (separators_not_mem_encodeByte b).2 hchar

/-! ## Queries -/

theorem parsePart_renderPart (pair : List Char × List Char) :
    parsePart (renderPart pair) = pair := by
  have hsplit : splitFirst '=' (renderPart pair) = some (encode pair.1, encode pair.2) :=
    splitFirst_eq_some_iff.mpr ⟨rfl, (separators_not_mem_encode pair.1).2⟩
  unfold parsePart
  rw [hsplit]
  dsimp only
  rw [decode_encode, decode_encode]

theorem ampersand_not_mem_renderPart (pair : List Char × List Char) : '&' ∉ renderPart pair := by
  intro hmem
  rcases List.mem_append.mp hmem with hmem | hmem
  · exact (separators_not_mem_encode pair.1).1 hmem
  · rcases List.mem_cons.mp hmem with heq | hmem
    · cases heq
    · exact (separators_not_mem_encode pair.2).1 hmem

/-- A query is read back as the pairs it was written from. -/
theorem parse_render (pairs : List (List Char × List Char)) : parse (render pairs) = pairs := by
  cases pairs with
  | nil => rfl
  | cons pair pairs =>
      have hparts : splitAll '&' (render (pair :: pairs)) = (pair :: pairs).map renderPart := by
        refine splitAll_joinAll (List.cons_ne_nil _ _) ?_
        intro part hpart
        obtain ⟨pair, -, rfl⟩ := List.mem_map.mp hpart
        exact ampersand_not_mem_renderPart pair
      -- even a pair of empty texts leaves its sign, so no part is dropped as empty
      have hnonempty : ((pair :: pairs).map renderPart).filter (· ≠ []) =
          (pair :: pairs).map renderPart := by
        rw [List.filter_eq_self]
        intro part hpart
        obtain ⟨pair, -, rfl⟩ := List.mem_map.mp hpart
        simp [renderPart]
      have hread : parsePart ∘ renderPart = id := funext parsePart_renderPart
      rw [parse, hparts, hnonempty, List.map_map, hread, List.map_id]

end Form

end Waymark.Text
