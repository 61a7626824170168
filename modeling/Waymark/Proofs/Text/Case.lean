import Waymark.Proofs.Text.Utf8
import Waymark.Text.Split

/-! # Texts that differ in ASCII case

Only the letters of ASCII have a case here. So the bytes of two texts are the same up to case
exactly if their characters are, and both texts are of the same length in bytes.
-/

namespace Waymark.Text

/-- Two texts are the same but for the case of ASCII letters. -/
def SameUpToCase (first second : List Char) : Prop :=
  first.map Char.toLower = second.map Char.toLower

instance (first second : List Char) : Decidable (SameUpToCase first second) :=
  inferInstanceAs (Decidable (_ = _))

theorem SameUpToCase.refl (text : List Char) : SameUpToCase text text := rfl

theorem SameUpToCase.symm {first second : List Char} (h : SameUpToCase first second) :
    SameUpToCase second first :=
  Eq.symm h

/-- What is no small letter is the small letter of nothing but itself. -/
theorem eq_of_toLower {c d : Char} (hd : d.isLower = false) (h : c.toLower = d) : c = d := by
  unfold Char.toLower at h
  split at h
  next hupper =>
    exfalso
    have hlow : 65 ≤ c.val.toNat := UInt32.le_iff_toNat_le.mp hupper.1
    have hhigh : c.val.toNat ≤ 90 := UInt32.le_iff_toNat_le.mp hupper.2
    have hsum : (c.val.toNat + 32) % 2 ^ 32 = d.val.toNat :=
      (UInt32.toNat_add _ _).symm.trans (congrArg UInt32.toNat (congrArg Char.val h))
    unfold Char.isLower at hd
    rw [Bool.and_eq_false_iff, decide_eq_false_iff_not, decide_eq_false_iff_not,
      ge_iff_le, UInt32.le_iff_toNat_le, UInt32.le_iff_toNat_le] at hd
    change ¬ 97 ≤ d.val.toNat ∨ ¬ d.val.toNat ≤ 122 at hd
    omega
  next => exact h

/-- A character without case is in both texts or in neither. -/
theorem SameUpToCase.mem {first second : List Char} {c : Char} (h : SameUpToCase first second)
    (hc : c.isLower = false) (hlower : c.toLower = c) (hmem : c ∈ first) : c ∈ second := by
  have hmap : c ∈ second.map Char.toLower := by
    rw [← h]
    exact List.mem_map.mpr ⟨c, hmem, hlower⟩
  obtain ⟨d, hd, heq⟩ := List.mem_map.mp hmap
  rwa [← eq_of_toLower hc heq]

/-- What follows a leading text is what the whole text has behind the same text up to case. -/
theorem dropLeading?_eq_some_iff {leading text rest : List Char} :
    dropLeading? leading text = some rest ↔
      ∃ front, text = front ++ rest ∧ SameUpToCase front leading := by
  induction leading generalizing text with
  | nil =>
      unfold dropLeading? SameUpToCase
      simp [eq_comm]
  | cons a leading ih =>
      cases text with
      | nil =>
          unfold dropLeading? SameUpToCase
          simp
      | cons b text =>
          unfold dropLeading?
          split
          next hcase =>
            rw [ih]
            constructor
            · rintro ⟨front, rfl, hsame⟩
              exact ⟨b :: front, rfl, List.cons_eq_cons.mpr ⟨hcase.symm, hsame⟩⟩
            · rintro ⟨front, htext, hsame⟩
              cases front with
              | nil => cases hsame
              | cons c front =>
                  obtain ⟨-, rfl⟩ := List.cons.inj htext
                  exact ⟨front, rfl, (List.cons.inj hsame).2⟩
          next hcase =>
            constructor
            · nofun
            · rintro ⟨front, htext, hsame⟩
              cases front with
              | nil => cases hsame
              | cons c front =>
                  obtain ⟨rfl, -⟩ := List.cons.inj htext
                  exact absurd (List.cons.inj hsame).1.symm hcase

/-! ## Bytes -/

namespace Utf8

/-- The small letter of a byte that is a capital letter of ASCII; any other byte as it is. -/
def lowerByte (b : UInt8) : UInt8 := if 0x41 ≤ b ∧ b ≤ 0x5A then b + 0x20 else b

theorem encode_injective {first second : List Char} (h : encode first = encode second) :
    first = second := by
  rw [← decode_encode first, h, decode_encode]

theorem map_lowerByte_encodeChar (c : Char) :
    (encodeChar c).map lowerByte = encodeChar c.toLower := by
  by_cases hascii : c.toNat < 0x80
  · have hall : ∀ n < 0x80, (encodeChar (Char.ofNat n)).map lowerByte =
        encodeChar (Char.ofNat n).toLower := by
      decide +kernel
    have hc := hall c.toNat hascii
    rwa [Char.ofNat_toNat] at hc
  · -- neither the character nor one of its bytes is of ASCII
    have hbytes : ∀ b ∈ encodeChar c, lowerByte b = b := by
      intro b hb
      refine if_neg fun hletter => hascii ?_
      have hhigh : b.toNat ≤ 0x5A := UInt8.le_iff_toNat_le.mp hletter.2
      have hsmall : ∀ n ≤ 0x5A, (Char.ofNat n).toNat < 0x80 := by decide
      rw [eq_of_mem_encodeChar hb (by omega)]
      exact hsmall b.toNat hhigh
    have hlower : c.toLower = c := by
      refine dif_neg fun hletter => hascii ?_
      have hhigh : c.toNat ≤ 90 := UInt32.le_iff_toNat_le.mp hletter.2
      omega
    rw [hlower]
    exact (List.map_congr_left hbytes).trans (List.map_id _)

theorem map_lowerByte_encode (text : List Char) :
    (encode text).map lowerByte = encode (text.map Char.toLower) := by
  unfold encode
  rw [List.map_flatMap, List.flatMap_map]
  exact congrArg (text.flatMap ·) (funext map_lowerByte_encodeChar)

/-- Bytes are compared without regard to case exactly as characters are. -/
theorem map_lowerByte_eq_iff {first second : List Char} :
    (encode first).map lowerByte = (encode second).map lowerByte ↔
      SameUpToCase first second := by
  rw [map_lowerByte_encode, map_lowerByte_encode]
  exact ⟨encode_injective, congrArg encode⟩

theorem length_encode_of_same {first second : List Char} (h : SameUpToCase first second) :
    (encode first).length = (encode second).length := by
  have hlength := congrArg List.length (map_lowerByte_eq_iff.mpr h)
  rwa [List.length_map, List.length_map] at hlength

end Utf8

end Waymark.Text
