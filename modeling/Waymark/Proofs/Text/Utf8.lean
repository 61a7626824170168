import Waymark.Text.Utf8

/-! # Reading what was written in UTF-8

The bytes of a character begin with a byte that tells how many follow, and those lie between the
bounds that it sets. So a text is read back from its bytes, one character after another.
-/

namespace Waymark.Text.Utf8

theorem toNat_toUInt8 {n : Nat} (h : n < 0x100) : n.toUInt8.toNat = n :=
  UInt8.toNat_ofNat_of_lt' h

/-- What holds of the first 256 numbers as bytes holds of all bytes. -/
@[elab_as_elim]
theorem forall_byte {motive : UInt8 → Prop} (h : ∀ n < 0x100, motive n.toUInt8) (b : UInt8) :
    motive b := by
  have hb : b.toNat.toUInt8 = b := UInt8.ofNat_toNat
  exact hb ▸ h b.toNat b.toNat_lt

/-- A first byte in front of the bytes that it asks for is read together with them. -/
theorem readOne_of_tail {lead : UInt8} {tail rest : List UInt8} {low high : UInt8} {c : Char}
    (hlead : sequence? lead = some (tail.length, low, high)) (hhigh : ¬ lead < 0x80)
    (htail : continuation tail.length low high (tail ++ rest) = tail)
    (hscalar : scalar lead tail = c.toNat) : readOne lead (tail ++ rest) = (c, tail.length) := by
  unfold readOne
  rw [if_neg hhigh, hlead]
  dsimp only
  rw [htail, if_pos rfl, hscalar, Char.ofNat_toNat]

theorem continuation_cons {low high b : UInt8} (count : Nat) (rest : List UInt8)
    (hlow : low.toNat ≤ b.toNat) (hhigh : b.toNat ≤ high.toNat) :
    continuation (count + 1) low high (b :: rest) =
      b :: continuation count 0x80 0xBF rest :=
  if_pos ⟨UInt8.le_iff_toNat_le.mpr hlow, UInt8.le_iff_toNat_le.mpr hhigh⟩

/-- The last six bits of a number behind a first one. -/
theorem toNat_follower (n : Nat) : (0x80 + n % 0x40).toUInt8.toNat = 0x80 + n % 0x40 :=
  toNat_toUInt8 (by omega)

theorem continuation_follower (count n : Nat) (rest : List UInt8) :
    continuation (count + 1) 0x80 0xBF ((0x80 + n % 0x40).toUInt8 :: rest) =
      (0x80 + n % 0x40).toUInt8 :: continuation count 0x80 0xBF rest := by
  refine continuation_cons count rest ?_ ?_ <;> rw [toNat_follower]
  · exact Nat.le_add_right _ _
  · change _ ≤ 0xBF
    omega

theorem not_surrogate (c : Char) : c.toNat < 0xD800 ∨ 0xDFFF < c.toNat ∧ c.toNat < 0x110000 :=
  c.valid

theorem sequence?_two : ∀ k < 0x20, 2 ≤ k → ¬ (0xC0 + k).toUInt8 < 0x80 ∧
    sequence? (0xC0 + k).toUInt8 = some (1, 0x80, 0xBF) := by
  decide

theorem sequence?_three : ∀ k < 0x10, ¬ (0xE0 + k).toUInt8 < 0x80 ∧
    sequence? (0xE0 + k).toUInt8 =
      some (2, if k = 0 then 0xA0 else 0x80, if k = 13 then 0x9F else 0xBF) := by
  decide

theorem sequence?_four : ∀ k < 5, ¬ (0xF0 + k).toUInt8 < 0x80 ∧
    sequence? (0xF0 + k).toUInt8 =
      some (3, if k = 0 then 0x90 else 0x80, if k = 4 then 0x8F else 0xBF) := by
  decide

section

variable {c : Char} (rest : List UInt8)

theorem readOne_one (h : c.toNat < 0x80) : readOne c.toNat.toUInt8 rest = (c, 0) := by
  have hnat : c.toNat.toUInt8.toNat = c.toNat := toNat_toUInt8 (by omega)
  have hlt : c.toNat.toUInt8 < 0x80 := by
    rw [UInt8.lt_iff_toNat_lt, hnat]
    exact h
  unfold readOne
  rw [if_pos hlt, hnat, Char.ofNat_toNat]

theorem readOne_two (hlow : 0x80 ≤ c.toNat) (hhigh : c.toNat < 0x800) :
    readOne (0xC0 + c.toNat / 0x40).toUInt8 ((0x80 + c.toNat % 0x40).toUInt8 :: rest) =
      (c, 1) := by
  have hfirst : (0xC0 + c.toNat / 0x40).toUInt8.toNat = 0xC0 + c.toNat / 0x40 :=
    toNat_toUInt8 (by omega)
  obtain ⟨hlead, hsequence⟩ := sequence?_two (c.toNat / 0x40) (by omega) (by omega)
  refine @readOne_of_tail _ [_] _ _ _ _ hsequence hlead (continuation_follower 0 _ rest) ?_
  simp only [scalar, List.length_singleton, List.foldl_cons, List.foldl_nil, hfirst,
    toNat_follower]
  omega

theorem readOne_three (hlow : 0x800 ≤ c.toNat) (hhigh : c.toNat < 0x10000) :
    readOne (0xE0 + c.toNat / 0x1000).toUInt8
      ((0x80 + c.toNat / 0x40 % 0x40).toUInt8 :: (0x80 + c.toNat % 0x40).toUInt8 :: rest) =
        (c, 2) := by
  have hc := not_surrogate c
  have hfirst : (0xE0 + c.toNat / 0x1000).toUInt8.toNat = 0xE0 + c.toNat / 0x1000 :=
    toNat_toUInt8 (by omega)
  obtain ⟨hlead, hsequence⟩ := sequence?_three (c.toNat / 0x1000) (by omega)
  refine @readOne_of_tail _ [_, _] _ _ _ _ hsequence hlead ?_ ?_
  · -- the bounds of the second byte keep out long forms and surrogates
    refine (continuation_cons 1 _ ?_ ?_).trans (congrArg _ (continuation_follower 0 _ rest)) <;>
      rw [toNat_follower] <;> split
    · change 0xA0 ≤ _
      omega
    · exact Nat.le_add_right _ _
    · change _ ≤ 0x9F
      omega
    · change _ ≤ 0xBF
      omega
  · simp only [scalar, List.length_cons, List.length_nil, List.foldl_cons, List.foldl_nil, hfirst,
      toNat_follower]
    omega

theorem readOne_four (hlow : 0x10000 ≤ c.toNat) :
    readOne (0xF0 + c.toNat / 0x40000).toUInt8
      ((0x80 + c.toNat / 0x1000 % 0x40).toUInt8 :: (0x80 + c.toNat / 0x40 % 0x40).toUInt8 ::
        (0x80 + c.toNat % 0x40).toUInt8 :: rest) = (c, 3) := by
  have hc := not_surrogate c
  have hfirst : (0xF0 + c.toNat / 0x40000).toUInt8.toNat = 0xF0 + c.toNat / 0x40000 :=
    toNat_toUInt8 (by omega)
  obtain ⟨hlead, hsequence⟩ := sequence?_four (c.toNat / 0x40000) (by omega)
  refine @readOne_of_tail _ [_, _, _] _ _ _ _ hsequence hlead ?_ ?_
  · -- the bounds of the second byte keep out long forms and numbers of no character
    refine (continuation_cons 2 _ ?_ ?_).trans (congrArg _
      ((continuation_follower 1 _ _).trans (congrArg _ (continuation_follower 0 _ rest)))) <;>
      rw [toNat_follower] <;> split
    · change 0x90 ≤ _
      omega
    · exact Nat.le_add_right _ _
    · change _ ≤ 0x8F
      omega
    · change _ ≤ 0xBF
      omega
  · simp only [scalar, List.length_cons, List.length_nil, List.foldl_cons, List.foldl_nil, hfirst,
      toNat_follower]
    omega

end

/-- A character is read back from its bytes, whatever follows them. -/
theorem readOne_encodeChar (c : Char) (rest : List UInt8) :
    ∃ lead tail, encodeChar c = lead :: tail ∧ readOne lead (tail ++ rest) = (c, tail.length) := by
  unfold encodeChar
  dsimp only
  split
  next hone => exact ⟨_, [], rfl, readOne_one rest hone⟩
  next hone =>
    split
    next htwo => exact ⟨_, [_], rfl, readOne_two rest (Nat.not_lt.mp hone) htwo⟩
    next htwo =>
      split
      next hthree => exact ⟨_, [_, _], rfl, readOne_three rest (Nat.not_lt.mp htwo) hthree⟩
      next hthree => exact ⟨_, [_, _, _], rfl, readOne_four rest (Nat.not_lt.mp hthree)⟩

/-- A byte below the others stands for itself only. -/
theorem eq_of_mem_encodeChar {c : Char} {b : UInt8} (h : b ∈ encodeChar c) (hb : b.toNat < 0x80) :
    c = Char.ofNat b.toNat := by
  have hc := not_surrogate c
  have hlead : ∀ n, 0x80 ≤ n → n < 0x100 → b ≠ n.toUInt8 := by
    rintro n hlow hhigh rfl
    rw [toNat_toUInt8 hhigh] at hb
    omega
  unfold encodeChar at h
  dsimp only at h
  split at h
  next hone =>
    rw [List.mem_singleton.mp h, toNat_toUInt8 (by omega), Char.ofNat_toNat]
  next =>
    -- all bytes of longer forms have their first bit set
    exfalso
    split at h
    · simp only [List.mem_cons, List.not_mem_nil, or_false] at h
      rcases h with h | h
      all_goals exact hlead _ (by omega) (by omega) h
    split at h
    · simp only [List.mem_cons, List.not_mem_nil, or_false] at h
      rcases h with h | h | h
      all_goals exact hlead _ (by omega) (by omega) h
    · simp only [List.mem_cons, List.not_mem_nil, or_false] at h
      rcases h with h | h | h | h
      all_goals exact hlead _ (by omega) (by omega) h

theorem encode_append (first second : List Char) :
    encode (first ++ second) = encode first ++ encode second :=
  List.flatMap_append

theorem encode_cons (c : Char) (text : List Char) :
    encode (c :: text) = encodeChar c ++ encode text :=
  List.flatMap_cons

/-- A text is read back from its bytes, and what follows is read as if it stood alone. -/
theorem decode_encode_append (text : List Char) (bytes : List UInt8) :
    decode (encode text ++ bytes) = text ++ decode bytes := by
  induction text with
  | nil => rfl
  | cons c text ih =>
      -- the reader takes the bytes of one character and goes on behind them
      obtain ⟨lead, tail, hbytes, hread⟩ := readOne_encodeChar c (encode text ++ bytes)
      rw [encode_cons, hbytes, List.append_assoc, List.cons_append, decode, hread, List.drop_left,
        ih]
      rfl

/-- A text is read back from its bytes. -/
theorem decode_encode (text : List Char) : decode (encode text) = text := by
  have hread := decode_encode_append text []
  rwa [List.append_nil, decode, List.append_nil] at hread

end Waymark.Text.Utf8
