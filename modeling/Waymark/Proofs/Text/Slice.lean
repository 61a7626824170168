import Waymark.Proofs.Text.Utf8

/-! # Cutting text at byte offsets

The bytes of a text may be cut where a character begins and at their end; anywhere else a
character would be torn apart. An offset is of the first kind exactly if it is the length in bytes
of what the text begins with, and then both parts are text again.
-/

namespace Waymark.Text.Utf8

/-- Whether a byte stands inside a character. -/
def isContinuation (b : UInt8) : Bool := 0x80 ≤ b && b ≤ 0xBF

/-- Whether an offset is neither inside a character nor past the end. -/
def isBoundary (bytes : List UInt8) (offset : Nat) : Bool :=
  match bytes.drop offset with
  | [] => offset == bytes.length
  | b :: _ => !isContinuation b

/-- The texts in front of a byte offset and behind it. There are none if the offset is inside a
character or past the end. -/
def cut? (offset : Nat) (text : List Char) : Option (List Char × List Char) :=
  if isBoundary (encode text) offset then
    some (decode ((encode text).take offset), decode ((encode text).drop offset))
  else none

theorem isContinuation_iff {b : UInt8} :
    isContinuation b = true ↔ 0x80 ≤ b.toNat ∧ b.toNat ≤ 0xBF := by
  unfold isContinuation
  rw [Bool.and_eq_true, decide_eq_true_eq, decide_eq_true_eq, UInt8.le_iff_toNat_le,
    UInt8.le_iff_toNat_le]
  rfl

theorem isContinuation_lead {n : Nat} (h : n < 0x80 ∨ 0xC0 ≤ n ∧ n < 0x100) :
    isContinuation n.toUInt8 = false := by
  rw [← Bool.not_eq_true, isContinuation_iff, toNat_toUInt8 (by omega)]
  omega

theorem isContinuation_follower (n : Nat) : isContinuation (0x80 + n % 0x40).toUInt8 = true := by
  rw [isContinuation_iff, toNat_follower]
  omega

/-- All bytes of a character but the first one stand inside it. -/
theorem encodeChar_eq_cons (c : Char) : ∃ lead tail, encodeChar c = lead :: tail ∧
    isContinuation lead = false ∧ ∀ b ∈ tail, isContinuation b = true := by
  have hc := not_surrogate c
  unfold encodeChar
  dsimp only
  split
  next hone => exact ⟨_, [], rfl, isContinuation_lead (.inl hone), nofun⟩
  next =>
    split
    next =>
      refine ⟨_, [_], rfl, isContinuation_lead (by omega), ?_⟩
      simp only [List.forall_mem_cons, isContinuation_follower]
      exact ⟨trivial, nofun⟩
    next =>
      split
      next =>
        refine ⟨_, [_, _], rfl, isContinuation_lead (by omega), ?_⟩
        simp only [List.forall_mem_cons, isContinuation_follower]
        exact ⟨trivial, trivial, nofun⟩
      next =>
        refine ⟨_, [_, _, _], rfl, isContinuation_lead (by omega), ?_⟩
        simp only [List.forall_mem_cons, isContinuation_follower]
        exact ⟨trivial, trivial, trivial, nofun⟩

theorem isBoundary_append (bytes more : List UInt8) (offset : Nat) :
    isBoundary (bytes ++ more) (bytes.length + offset) = isBoundary more offset := by
  unfold isBoundary
  rw [List.drop_append, List.drop_eq_nil_of_le (Nat.le_add_right _ _), List.nil_append,
    Nat.add_sub_cancel_left, List.length_append]
  cases more.drop offset with
  | nil =>
      rw [Bool.eq_iff_iff, beq_iff_eq, beq_iff_eq]
      exact Nat.add_left_cancel_iff
  | cons b rest => rfl

theorem isBoundary_zero (text : List Char) : isBoundary (encode text) 0 = true := by
  cases text with
  | nil => rfl
  | cons c text =>
      obtain ⟨lead, tail, hbytes, hlead, -⟩ := encodeChar_eq_cons c
      rw [encode_cons, hbytes, isBoundary]
      exact congrArg not hlead

/-- No offset behind the first byte of a character and in front of its end is a boundary. -/
theorem isBoundary_inside {c : Char} {offset : Nat} (hzero : offset ≠ 0)
    (hinside : offset < (encodeChar c).length) (more : List UInt8) :
    isBoundary (encodeChar c ++ more) offset = false := by
  obtain ⟨lead, tail, hbytes, -, htail⟩ := encodeChar_eq_cons c
  obtain ⟨before, rfl⟩ := Nat.exists_eq_succ_of_ne_zero hzero
  rw [hbytes] at hinside ⊢
  have hbefore : before < tail.length := Nat.lt_of_succ_lt_succ hinside
  rw [isBoundary, List.drop_append_of_le_length (Nat.le_of_lt hinside), List.drop_succ_cons,
    List.drop_eq_getElem_cons hbefore]
  exact congrArg not (htail tail[before] (List.getElem_mem hbefore))

/-- The boundaries of a text are the lengths of what it begins with. -/
theorem isBoundary_encode {text : List Char} {offset : Nat} :
    isBoundary (encode text) offset = true ↔
      ∃ front rest, text = front ++ rest ∧ (encode front).length = offset := by
  induction text generalizing offset with
  | nil =>
      constructor
      · intro hboundary
        rw [encode, List.flatMap_nil, isBoundary, List.drop_nil] at hboundary
        exact ⟨[], [], rfl, (beq_iff_eq.mp hboundary).symm⟩
      · rintro ⟨front, rest, htext, rfl⟩
        obtain ⟨rfl, -⟩ := List.append_eq_nil_iff.mp htext.symm
        exact isBoundary_zero []
  | cons c text ih =>
      by_cases hzero : offset = 0
      · subst hzero
        exact ⟨fun _ => ⟨[], _, rfl, rfl⟩, fun _ => isBoundary_zero _⟩
      -- otherwise a front of that length has the first character and is cut behind it
      have hfront : (∃ front rest, c :: text = front ++ rest ∧ (encode front).length = offset) ↔
          ∃ front rest, text = front ++ rest ∧
            (encodeChar c).length + (encode front).length = offset := by
        constructor
        · rintro ⟨front, rest, htext, hlength⟩
          cases front with
          | nil => exact absurd hlength.symm hzero
          | cons d front =>
              obtain ⟨rfl, rfl⟩ := List.cons.inj htext
              rw [encode_cons, List.length_append] at hlength
              exact ⟨front, rest, rfl, hlength⟩
        · rintro ⟨front, rest, rfl, hlength⟩
          refine ⟨c :: front, rest, rfl, ?_⟩
          rw [encode_cons, List.length_append, hlength]
      rw [hfront, encode_cons]
      by_cases hinside : offset < (encodeChar c).length
      · rw [isBoundary_inside hzero hinside]
        constructor
        · nofun
        · rintro ⟨front, rest, -, hlength⟩
          omega
      · obtain ⟨behind, rfl⟩ := Nat.exists_eq_add_of_le (Nat.not_lt.mp hinside)
        rw [isBoundary_append, ih]
        simp only [Nat.add_left_cancel_iff]

theorem cut?_encode (front rest : List Char) :
    cut? (encode front).length (front ++ rest) = some (front, rest) := by
  unfold cut?
  rw [if_pos (isBoundary_encode.mpr ⟨front, rest, rfl, rfl⟩), encode_append, List.take_left,
    List.drop_left, decode_encode, decode_encode]

/-- A text is cut at a byte offset exactly into a front of that length and the rest. -/
theorem cut?_eq_some_iff {offset : Nat} {text front rest : List Char} :
    cut? offset text = some (front, rest) ↔
      text = front ++ rest ∧ (encode front).length = offset := by
  constructor
  · intro h
    have hcut := h
    unfold cut? at hcut
    split at hcut
    next hboundary =>
      obtain ⟨front', rest', rfl, rfl⟩ := isBoundary_encode.mp hboundary
      cases (cut?_encode front' rest').symm.trans h
      exact ⟨rfl, rfl⟩
    next => cases hcut
  · rintro ⟨rfl, rfl⟩
    exact cut?_encode front rest

end Waymark.Text.Utf8
