import Waymark.Proofs.Text.Query

/-! # Reading bytes that may be no text

Bytes are read character by character. Where no character stands, a longest part that some character
begins with becomes one replacement character, or a single byte does if no character begins with
it. This says for all bytes what they are read as, without the tables that the reader goes by: what
it takes for the first bytes of a character can always be completed to one.
-/

namespace Waymark.Text.Utf8

/-! ## The rule -/

/-- Some bytes are all or the first of the bytes of a character. -/
def BeginsChar (part : List UInt8) : Prop := ∃ c, part <+: String.utf8EncodeChar c

/-- A part in front of some bytes where no character stands. It is as long as the beginning of a
character can be, or a single byte. -/
structure IsIllFormed (part rest : List UInt8) : Prop where
  noChar : ∀ c, ¬ String.utf8EncodeChar c <+: part ++ rest
  begins : part ≠ [] ∧ BeginsChar part ∨ part.length = 1
  longest : ∀ longer, longer <+: part ++ rest → part.length < longer.length → ¬ BeginsChar longer

/-- The text that some bytes are read as. -/
inductive Reads : (bytes : List UInt8) → (text : List Char) → Prop
  | nil : Reads [] []
  | char (c : Char) {bytes : List UInt8} {text : List Char} (hrest : Reads bytes text) :
      Reads (String.utf8EncodeChar c ++ bytes) (c :: text)
  | illFormed {part bytes : List UInt8} {text : List Char} (hpart : IsIllFormed part bytes)
      (hrest : Reads bytes text) : Reads (part ++ bytes) ('\uFFFD' :: text)

theorem utf8EncodeChar_eq (c : Char) : String.utf8EncodeChar c = encodeChar c := by
  have hc := not_surrogate c
  have hval : c.val.toNat = c.toNat := rfl
  unfold String.utf8EncodeChar encodeChar
  dsimp only
  rw [hval]
  by_cases hone : c.toNat < 0x80
  · rw [if_pos hone, if_pos (by omega)]
  rw [if_neg hone, if_neg (by omega)]
  by_cases htwo : c.toNat < 0x800
  · rw [if_pos htwo, if_pos (by omega),
      show c.toNat / 64 % 32 + 192 = 0xC0 + c.toNat / 0x40 by omega, Nat.add_comm _ 128]
  rw [if_neg htwo, if_neg (by omega)]
  by_cases hthree : c.toNat < 0x10000
  · rw [if_pos hthree, if_pos (by omega),
      show c.toNat / 4096 % 16 + 224 = 0xE0 + c.toNat / 0x1000 by omega, Nat.add_comm _ 128,
      Nat.add_comm _ 128]
  rw [if_neg hthree, if_neg (by omega),
    show c.toNat / 262144 % 8 + 240 = 0xF0 + c.toNat / 0x40000 by omega, Nat.add_comm _ 128,
    Nat.add_comm _ 128, Nat.add_comm _ 128]

/-! ## The bytes behind a first byte -/

variable {count : Nat} {low high lead : UInt8} {bytes more part tail rest : List UInt8} {c : Char}

theorem continuation_prefix_self (count : Nat) (low high : UInt8) (bytes : List UInt8) :
    continuation count low high bytes <+: bytes := by
  induction bytes generalizing count low high with
  | nil => cases count <;> exact List.nil_prefix
  | cons b rest ih =>
      cases count with
      | zero => exact List.nil_prefix
      | succ count =>
          unfold continuation
          split
          · exact List.cons_prefix_cons.mpr ⟨rfl, ih _ _ _⟩
          · exact List.nil_prefix

theorem continuation_cons_eq_iff {b : UInt8} : continuation (count + 1) low high (b :: rest) =
    b :: rest ↔ (low.toNat ≤ b.toNat ∧ b.toNat ≤ high.toNat) ∧
      continuation count 0x80 0xBF rest = rest := by
  rw [continuation, ← UInt8.le_iff_toNat_le, ← UInt8.le_iff_toNat_le]
  split
  next hbounds => simp [hbounds]
  next hbounds => simp [hbounds]

/-- The first ones of some bytes that do nothing else continue a sequence, too. -/
theorem continuation_of_append (h : continuation count low high (part ++ more) = part ++ more) :
    continuation count low high part = part := by
  induction part generalizing count low high with
  | nil => cases count <;> rfl
  | cons b rest ih =>
      cases count with
      | zero => cases h
      | succ count =>
          rw [List.cons_append, continuation_cons_eq_iff] at h
          exact continuation_cons_eq_iff.mpr ⟨h.1, ih h.2⟩

/-- The bytes that continue a sequence go at least as far as any bytes that do nothing else. -/
theorem prefix_continuation (h : continuation count low high tail = tail) (more : List UInt8) :
    tail <+: continuation count low high (tail ++ more) := by
  induction tail generalizing count low high with
  | nil => exact List.nil_prefix
  | cons b rest ih =>
      cases count with
      | zero => cases h
      | succ count =>
          obtain ⟨hb, hrest⟩ := continuation_cons_eq_iff.mp h
          rw [List.cons_append, continuation_cons count _ hb.1 hb.2]
          exact List.cons_prefix_cons.mpr ⟨rfl, ih hrest⟩

theorem continuation_continuation (count : Nat) (low high : UInt8) (bytes : List UInt8) :
    continuation count low high (continuation count low high bytes) =
      continuation count low high bytes := by
  induction bytes generalizing count low high with
  | nil => cases count <;> rfl
  | cons b rest ih =>
      cases count with
      | zero => rfl
      | succ count =>
          by_cases hbounds : low ≤ b ∧ b ≤ high
          · have hcons : continuation (count + 1) low high (b :: rest) =
                b :: continuation count 0x80 0xBF rest := if_pos hbounds
            rw [hcons]
            exact (if_pos hbounds).trans (congrArg (b :: ·) (ih _ _ _))
          · have hnil : continuation (count + 1) low high (b :: rest) = [] := if_neg hbounds
            rw [hnil]
            rfl

/-! ## Bytes of characters -/

/-- What a first byte asks for: how many bytes follow it, and bounds for the byte right behind it,
which keep out long forms, surrogates and numbers of no character. -/
structure Asks (lead count low high : Nat) : Prop where
  bounds : 0x80 ≤ low ∧ low ≤ high ∧ high ≤ 0xBF
  two : count = 1 → 0xC2 ≤ lead ∧ lead ≤ 0xDF
  three : count = 2 → 0xE0 ≤ lead ∧ lead ≤ 0xEF ∧ (lead = 0xE0 → 0xA0 ≤ low) ∧
    (lead = 0xED → high ≤ 0x9F)
  four : count = 3 → 0xF0 ≤ lead ∧ lead ≤ 0xF4 ∧ (lead = 0xF0 → 0x90 ≤ low) ∧
    (lead = 0xF4 → high ≤ 0x8F)
  count : 1 ≤ count ∧ count ≤ 3

theorem asks_of_sequence? (h : sequence? lead = some (count, low, high)) :
    Asks lead.toNat count low.toNat high.toNat := by
  have hlead := lead.toNat_lt
  unfold sequence? at h
  simp only [UInt8.le_iff_toNat_le, ← UInt8.toNat_inj, UInt8.reduceToNat] at h
  repeat' split at h
  all_goals cases h
  all_goals simp only [UInt8.reduceToNat]
  all_goals constructor <;> omega

theorem exists_toNat {n : Nat} (h : n < 0xD800 ∨ 0xDFFF < n ∧ n < 0x110000) :
    ∃ c : Char, c.toNat = n := by
  have hchar : n.isValidChar := h
  refine ⟨Char.ofNat n, ?_⟩
  rw [Char.ofNat, dif_pos hchar]
  rfl

theorem toUInt8_eq {n : Nat} {b : UInt8} (h : n = b.toNat) : n.toUInt8 = b := by
  rw [h]
  exact UInt8.ofNat_toNat

theorem exists_encodeChar_of_lt (h : lead < 0x80) : ∃ c, encodeChar c = [lead] := by
  have hlead : lead.toNat < 0x80 := h
  obtain ⟨c, hc⟩ := @exists_toNat lead.toNat (by omega)
  refine ⟨c, ?_⟩
  unfold encodeChar
  dsimp only
  rw [hc, if_pos hlead, toUInt8_eq rfl]

/-- As many bytes as a first byte asks for are those of a character. -/
theorem exists_encodeChar (h : Asks lead.toNat tail.length low.toNat high.toNat)
    (htail : continuation tail.length low high tail = tail) : ∃ c, encodeChar c = lead :: tail := by
  obtain ⟨hbounds, htwo, hthree, hfour, hcount⟩ := h
  match tail, hcount.2 with
  | [], _ => exact absurd hcount.1 (by simp)
  | [b], _ =>
      obtain ⟨hb, -⟩ := continuation_cons_eq_iff.mp htail
      have hlead := htwo rfl
      obtain ⟨c, hc⟩ := @exists_toNat ((lead.toNat - 0xC0) * 0x40 + (b.toNat - 0x80)) (by omega)
      refine ⟨c, ?_⟩
      unfold encodeChar
      dsimp only
      rw [hc, if_neg (by omega), if_pos (by omega), toUInt8_eq (b := lead) (by omega),
        toUInt8_eq (b := b) (by omega)]
  | [b, d], _ =>
      obtain ⟨hb, hrest⟩ := continuation_cons_eq_iff.mp htail
      obtain ⟨hd, -⟩ := continuation_cons_eq_iff.mp hrest
      simp only [UInt8.reduceToNat] at hd
      have hlead := hthree rfl
      obtain ⟨c, hc⟩ := @exists_toNat ((lead.toNat - 0xE0) * 0x1000 + (b.toNat - 0x80) * 0x40 +
        (d.toNat - 0x80)) (by omega)
      refine ⟨c, ?_⟩
      unfold encodeChar
      dsimp only
      rw [hc, if_neg (by omega), if_neg (by omega), if_pos (by omega),
        toUInt8_eq (b := lead) (by omega), toUInt8_eq (b := b) (by omega),
        toUInt8_eq (b := d) (by omega)]
  | [b, d, e], _ =>
      obtain ⟨hb, hrest⟩ := continuation_cons_eq_iff.mp htail
      obtain ⟨hd, hrest⟩ := continuation_cons_eq_iff.mp hrest
      obtain ⟨he, -⟩ := continuation_cons_eq_iff.mp hrest
      simp only [UInt8.reduceToNat] at hd he
      have hlead := hfour rfl
      obtain ⟨c, hc⟩ := @exists_toNat ((lead.toNat - 0xF0) * 0x40000 + (b.toNat - 0x80) * 0x1000 +
        (d.toNat - 0x80) * 0x40 + (e.toNat - 0x80)) (by omega)
      refine ⟨c, ?_⟩
      unfold encodeChar
      dsimp only
      rw [hc, if_neg (by omega), if_neg (by omega), if_neg (by omega),
        toUInt8_eq (b := lead) (by omega), toUInt8_eq (b := b) (by omega),
        toUInt8_eq (b := d) (by omega), toUInt8_eq (b := e) (by omega)]

/-- The bytes of a character are a byte of ASCII, or a first byte and what it asks for. -/
theorem of_encodeChar (h : encodeChar c = lead :: tail) : lead < 0x80 ∧ tail = [] ∨
    ∃ low high, sequence? lead = some (tail.length, low, high) ∧
      continuation tail.length low high tail = tail := by
  obtain ⟨lead', tail', hbytes, hread⟩ := readOne_encodeChar c []
  obtain ⟨rfl, rfl⟩ := List.cons.inj (h.symm.trans hbytes)
  rw [List.append_nil] at hread
  unfold readOne at hread
  split at hread
  next hascii =>
    exact .inl ⟨hascii, List.length_eq_zero_iff.mp (congrArg Prod.snd hread).symm⟩
  next =>
    -- the replacement character has bytes of its own, which are read as those of any other one
    have hreplacement (hc : replacement = c) : lead = 0xEF ∧ tail = [0xBF, 0xBD] := by
      subst hc
      exact ⟨(List.cons.inj h).1.symm, (List.cons.inj h).2.symm⟩
    split at hread
    next hsequence =>
      obtain ⟨rfl, rfl⟩ := hreplacement (Prod.mk.inj hread).1
      cases hsequence
    next count low high hsequence =>
      dsimp only at hread
      split at hread
      next hcount =>
        obtain rfl : count = tail.length := congrArg Prod.snd hread
        refine .inr ⟨low, high, hsequence, ?_⟩
        exact (continuation_prefix_self _ low high tail).eq_of_length hcount
      next hcount =>
        obtain ⟨rfl, rfl⟩ := hreplacement (Prod.mk.inj hread).1
        obtain ⟨rfl, rfl, rfl⟩ : 2 = count ∧ 0x80 = low ∧ 0xBF = high := by
          simpa [sequence?] using hsequence
        exact absurd (by decide) hcount

/-- What a first byte asks for can be had, however much of it is there already. -/
theorem exists_completion (hbounds : low.toNat ≤ high.toNat)
    (htail : continuation count low high tail = tail) : ∃ more, (tail ++ more).length = count ∧
      continuation count low high (tail ++ more) = tail ++ more := by
  induction count generalizing tail low high with
  | zero =>
      obtain rfl : tail = [] := htail.symm
      exact ⟨[], rfl, rfl⟩
  | succ count ih =>
      cases tail with
      | nil =>
          obtain ⟨more, hlength, hmore⟩ := @ih 0x80 0xBF [] (by decide) (by cases count <;> rfl)
          refine ⟨low :: more, congrArg Nat.succ hlength, ?_⟩
          exact continuation_cons_eq_iff.mpr ⟨⟨Nat.le_refl _, hbounds⟩, hmore⟩
      | cons b rest =>
          obtain ⟨hb, hrest⟩ := continuation_cons_eq_iff.mp htail
          obtain ⟨more, hlength, hmore⟩ := ih (by decide) hrest
          exact ⟨more, congrArg Nat.succ hlength, continuation_cons_eq_iff.mpr ⟨hb, hmore⟩⟩

/-- Bytes begin a character exactly if they are a byte of ASCII, or a first byte and no more than it
asks for. -/
theorem beginsChar_cons_iff : BeginsChar (lead :: tail) ↔ lead < 0x80 ∧ tail = [] ∨
    ∃ count low high, sequence? lead = some (count, low, high) ∧
      continuation count low high tail = tail := by
  unfold BeginsChar
  simp only [utf8EncodeChar_eq]
  constructor
  · rintro ⟨c, more, hbytes⟩
    rcases of_encodeChar hbytes.symm with ⟨hascii, hnil⟩ | ⟨low, high, hsequence, htail⟩
    · exact .inl ⟨hascii, (List.append_eq_nil_iff.mp hnil).1⟩
    · exact .inr ⟨_, low, high, hsequence, continuation_of_append htail⟩
  · rintro (⟨hascii, rfl⟩ | ⟨count, low, high, hsequence, htail⟩)
    · obtain ⟨c, hc⟩ := exists_encodeChar_of_lt hascii
      exact ⟨c, [], hc.symm⟩
    · have hasks := asks_of_sequence? hsequence
      obtain ⟨more, rfl, hmore⟩ := exists_completion hasks.bounds.2.1 htail
      obtain ⟨c, hc⟩ := exists_encodeChar hasks hmore
      exact ⟨c, more, hc.symm⟩

/-! ## The reader goes by the rule -/

theorem IsIllFormed.ne_nil (h : IsIllFormed part rest) : part ≠ [] := by
  rintro rfl
  rcases h.begins with ⟨hne, -⟩ | hone
  · exact hne rfl
  · cases hone

/-- A longer part would show that the other one does not go as far as it can. -/
theorem IsIllFormed.length_le {other others : List UInt8} (h : IsIllFormed part rest)
    (hother : IsIllFormed other others) (heq : part ++ rest = other ++ others) :
    other.length ≤ part.length := by
  by_cases hlt : part.length < other.length
  · rcases hother.begins with ⟨-, hbegins⟩ | hone
    · exact absurd hbegins (h.longest other (heq ▸ List.prefix_append other others) hlt)
    · have hpos := List.length_pos_iff.mpr h.ne_nil
      omega
  · exact Nat.not_lt.mp hlt

/-- What stands in front of some bytes as no character is determined by all of them. -/
theorem IsIllFormed.unique {other others : List UInt8} (h : IsIllFormed part rest)
    (hother : IsIllFormed other others) (heq : part ++ rest = other ++ others) : part = other :=
  List.append_inj_left heq
    (Nat.le_antisymm (hother.length_le h heq.symm) (h.length_le hother heq))

section

variable (hnone : ∀ c, ¬ String.utf8EncodeChar c <+: lead :: rest)
include hnone

theorem not_lt_of_noChar : ¬ lead < 0x80 := fun hascii =>
  let ⟨c, hc⟩ := exists_encodeChar_of_lt hascii
  hnone c ⟨rest, by rw [utf8EncodeChar_eq, hc, List.singleton_append]⟩

theorem length_continuation_ne (hsequence : sequence? lead = some (count, low, high)) :
    (continuation count low high rest).length ≠ count := by
  intro hcount
  have hasks := asks_of_sequence? hsequence
  rw [← hcount] at hasks
  obtain ⟨c, hc⟩ := exists_encodeChar hasks
    (by rw [hcount]; exact continuation_continuation count low high rest)
  refine hnone c ?_
  rw [utf8EncodeChar_eq, hc]
  exact List.cons_prefix_cons.mpr ⟨rfl, continuation_prefix_self count low high rest⟩

theorem isIllFormed_of_none (hsequence : sequence? lead = none) : IsIllFormed [lead] rest := by
  refine ⟨hnone, .inr rfl, fun longer hprefix hlonger hbegins => ?_⟩
  obtain ⟨b, tail, rfl⟩ := List.exists_cons_of_length_pos (Nat.zero_lt_of_lt hlonger)
  obtain rfl := (List.cons_prefix_cons.mp hprefix).1
  rcases beginsChar_cons_iff.mp hbegins with ⟨hascii, -⟩ | ⟨count, low, high, hsome, -⟩
  · exact not_lt_of_noChar hnone hascii
  · cases hsequence.symm.trans hsome

theorem isIllFormed_of_some (hsequence : sequence? lead = some (count, low, high))
    (hmore : continuation count low high rest ++ more = rest) :
    IsIllFormed (lead :: continuation count low high rest) more := by
  have htail := continuation_continuation count low high rest
  constructor
  case noChar =>
    rw [List.cons_append, hmore]
    exact hnone
  case begins =>
    exact .inl ⟨List.cons_ne_nil _ _,
      beginsChar_cons_iff.mpr (.inr ⟨count, low, high, hsequence, htail⟩)⟩
  case longest =>
    rw [List.cons_append, hmore]
    intro longer hprefix hlonger hbegins
    obtain ⟨b, tail, rfl⟩ := List.exists_cons_of_length_pos (Nat.zero_lt_of_lt hlonger)
    obtain ⟨rfl, others, rfl⟩ := List.cons_prefix_cons.mp hprefix
    rcases beginsChar_cons_iff.mp hbegins with ⟨hascii, -⟩ | ⟨_, _, _, hsome, hcontinues⟩
    · exact not_lt_of_noChar hnone hascii
    · -- what continues the sequence so far is no longer than what continues it at all
      cases hsequence.symm.trans hsome
      have hle := (prefix_continuation hcontinues others).length_le
      exact Nat.not_lt.mpr (Nat.succ_le_succ hle) hlonger

end

/-- One step of the reader takes a character, if one stands there, and what is none otherwise. -/
theorem readOne_reads (lead : UInt8) (rest : List UInt8) : ∃ tail more, rest = tail ++ more ∧
    ((∃ c, encodeChar c = lead :: tail ∧ readOne lead rest = (c, tail.length)) ∨
      IsIllFormed (lead :: tail) more ∧ readOne lead rest = (replacement, tail.length)) := by
  by_cases hchar : ∃ c, String.utf8EncodeChar c <+: lead :: rest
  · obtain ⟨c, more, hbytes⟩ := hchar
    obtain ⟨lead', tail, hencode, hread⟩ := readOne_encodeChar c more
    rw [utf8EncodeChar_eq, hencode] at hbytes
    obtain ⟨rfl, rfl⟩ := List.cons.inj hbytes
    exact ⟨tail, more, rfl, .inl ⟨c, hencode, hread⟩⟩
  have hnone : ∀ c, ¬ String.utf8EncodeChar c <+: lead :: rest := fun c h => hchar ⟨c, h⟩
  unfold readOne
  rw [if_neg (not_lt_of_noChar hnone)]
  cases hsequence : sequence? lead with
  | none => exact ⟨[], rest, rfl, .inr ⟨isIllFormed_of_none hnone hsequence, rfl⟩⟩
  | some asked =>
      obtain ⟨count, low, high⟩ := asked
      obtain ⟨more, hmore⟩ := continuation_prefix_self count low high rest
      dsimp only
      rw [if_neg (length_continuation_ne hnone hsequence)]
      exact ⟨_, more, hmore.symm, .inr ⟨isIllFormed_of_some hnone hsequence hmore, rfl⟩⟩

/-- What the reader reads is what the bytes are read as. -/
theorem reads_decode (bytes : List UInt8) : Reads bytes (decode bytes) := by
  induction bytes using decode.induct with
  | case1 =>
      rw [decode]
      exact .nil
  | case2 lead rest ih =>
      obtain ⟨tail, more, rfl, ⟨c, hc, hread⟩ | ⟨hpart, hread⟩⟩ := readOne_reads lead rest
      · rw [hread, List.drop_left] at ih
        rw [decode, hread, List.drop_left, ← List.cons_append, ← hc, ← utf8EncodeChar_eq]
        exact .char c ih
      · rw [hread, List.drop_left] at ih
        rw [decode, hread, List.drop_left]
        exact .illFormed hpart ih

theorem Reads.decode_eq {text : List Char} (h : Reads bytes text) : decode bytes = text := by
  induction h with
  | nil => rw [decode]
  | @char c bytes text _ ih =>
      have hread := decode_encode_append [c] bytes
      rwa [encode_cons, encode, List.flatMap_nil, List.append_nil, ih, ← utf8EncodeChar_eq] at hread
  | @illFormed part bytes text hpart _ ih =>
      obtain ⟨lead, rest, rfl⟩ := List.exists_cons_of_ne_nil hpart.ne_nil
      rw [List.cons_append, decode]
      obtain ⟨tail, more, heq, ⟨c, hc, -⟩ | ⟨hother, hread⟩⟩ := readOne_reads lead (rest ++ bytes)
      · have hstands : String.utf8EncodeChar c <+: lead :: rest ++ bytes :=
          ⟨more, by rw [utf8EncodeChar_eq, hc, List.cons_append, List.cons_append, heq]⟩
        exact absurd hstands (hpart.noChar c)
      · have hsame := hpart.unique hother (congrArg (lead :: ·) heq)
        obtain rfl : rest = tail := (List.cons.inj hsame).2
        rw [hread, List.drop_left, ih]
        rfl

/-- Bytes are read as their text is told to be, and as no other one. -/
theorem reads_iff {text : List Char} : Reads bytes text ↔ decode bytes = text :=
  ⟨Reads.decode_eq, fun h => h ▸ reads_decode bytes⟩

/-- Two bytes of three make one replacement character, a byte that begins nothing one of its own. -/
example : decode [0x61, 0xE2, 0x82, 0x62, 0xFF] = ['a', '\uFFFD', 'b', '\uFFFD'] := by
  cbv

end Waymark.Text.Utf8
