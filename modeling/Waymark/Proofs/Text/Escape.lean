import Waymark.Proofs.Text.Form

/-! # Spellings of a text

A character of a path is written as it stands or as the escapes of all its bytes. Whatever way is
taken, the text is read back, and what follows is read as if it stood alone: no escape reaches
past the text, and no byte that follows can become part of a character of the text.
-/

namespace Waymark.Text

namespace Percent

/-! ## Escapes in either case -/

theorem unescape_escapes {bytes : List UInt8} {escapes : List Char}
    (h : SameUpToCase escapes (bytes.flatMap escapeByte)) (rest : List UInt8) :
    unescape (Utf8.encode escapes ++ rest) = bytes ++ unescape rest := by
  induction bytes generalizing escapes with
  | nil =>
      obtain rfl : escapes = [] := List.map_eq_nil_iff.mp h
      rfl
  | cons b bytes ih =>
      rw [SameUpToCase, List.flatMap_cons, List.map_append] at h
      obtain ⟨first, others, rfl, hfirst, hothers⟩ := List.map_eq_append_iff.mp h
      rw [Utf8.encode_append, List.append_assoc, unescape_of_same hfirst, ih hothers]
      rfl

theorem questionMark_not_mem_escapes (bytes : List UInt8) :
    '?' ∉ bytes.flatMap escapeByte := by
  intro hmem
  obtain ⟨b, -, hb⟩ := List.mem_flatMap.mp hmem
  have hall : ∀ n < 0x100, '?' ∉ escapeByte n.toUInt8 := by
    decide +kernel
  exact Utf8.forall_byte hall b hb

/-! ## Texts and their spellings -/

/-- A text is spelled character by character: as the character stands, unless it is a percent sign
or a question mark, or as the escapes of all its bytes, with digits in either case. -/
inductive Spells : (text spelling : List Char) → Prop
  | nil : Spells [] []
  | plain {c : Char} {text spelling : List Char} (hsign : c ≠ '%') (hmark : c ≠ '?')
      (hrest : Spells text spelling) : Spells (c :: text) (c :: spelling)
  | escaped {c : Char} {text spelling escapes : List Char}
      (hescapes : SameUpToCase escapes ((Utf8.encodeChar c).flatMap escapeByte))
      (hrest : Spells text spelling) : Spells (c :: text) (escapes ++ spelling)

/-- A text without percent signs and question marks is a spelling of itself. -/
theorem Spells.refl {text : List Char} (hsign : '%' ∉ text) (hmark : '?' ∉ text) :
    Spells text text := by
  induction text with
  | nil => exact .nil
  | cons c text ih =>
      rw [List.mem_cons, not_or] at hsign hmark
      exact .plain (Ne.symm hsign.1) (Ne.symm hmark.1) (ih hsign.2 hmark.2)

theorem Spells.questionMark_not_mem {text spelling : List Char} (h : Spells text spelling) :
    '?' ∉ spelling := by
  induction h with
  | nil => exact List.not_mem_nil
  | plain hsign hmark hrest ih => exact List.not_mem_cons_of_ne_of_not_mem (Ne.symm hmark) ih
  | escaped hescapes hrest ih =>
      intro hmem
      rcases List.mem_append.mp hmem with hmem | hmem
      · exact questionMark_not_mem_escapes _ (hescapes.mem (by decide) (by decide) hmem)
      · exact ih hmem

/-- However a text is spelled, its bytes are read back. -/
theorem Spells.unescape_append {text spelling : List Char} (h : Spells text spelling)
    (bytes : List UInt8) :
    unescape (Utf8.encode spelling ++ bytes) = Utf8.encode text ++ unescape bytes := by
  induction h with
  | nil => rfl
  | @plain c text spelling hsign hmark hrest ih =>
      have hbytes : percentSign ∉ Utf8.encodeChar c := by
        intro hmem
        exact hsign (Utf8.eq_of_mem_encodeChar hmem (by decide))
      rw [Utf8.encode_cons, List.append_assoc, Percent.unescape_append hbytes, ih,
        Utf8.encode_cons, List.append_assoc]
  | @escaped c text spelling escapes hescapes hrest ih =>
      rw [Utf8.encode_append, List.append_assoc, unescape_escapes hescapes, ih, Utf8.encode_cons,
        List.append_assoc]

/-- However a text is spelled, it is read back, and what follows is read as if it stood alone. -/
theorem Spells.decode_append {text spelling : List Char} (h : Spells text spelling)
    (more : List Char) : decode (spelling ++ more) = text ++ decode more := by
  rw [decode, Utf8.encode_append, h.unescape_append, Utf8.decode_encode_append]
  rfl

end Percent

end Waymark.Text
