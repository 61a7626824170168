import Waymark.Proofs.Text.Form

/-! # Queries with more text behind them

Characters of ASCII come through decoding: nothing that is not a percent escape can hide them.
So a name without a question mark that is read from a query with a question mark and more text
behind it stands in the query itself or comes from that text.
-/

namespace Waymark.Text

/-! ## What decoding keeps -/

namespace Utf8

/-- The bytes that continue a sequence are the next ones, and none of them is ASCII. -/
theorem continuation_spec {count : Nat} {low high : UInt8} (hlow : 0x80 ≤ low)
    (bytes : List UInt8) :
    bytes.take (continuation count low high bytes).length = continuation count low high bytes ∧
      ∀ b ∈ continuation count low high bytes, 0x80 ≤ b := by
  induction bytes generalizing count low high with
  | nil => cases count <;> exact ⟨rfl, nofun⟩
  | cons b rest ih =>
      cases count with
      | zero => exact ⟨rfl, nofun⟩
      | succ count =>
          unfold continuation
          split
          next hbounds =>
            obtain ⟨htake, hall⟩ := @ih count 0x80 0xBF (by decide)
            refine ⟨congrArg (b :: ·) htake, ?_⟩
            exact List.forall_mem_cons.mpr ⟨UInt8.le_trans hlow hbounds.1, hall⟩
          next => exact ⟨rfl, nofun⟩

theorem low_of_sequence? {lead : UInt8} {count : Nat} {low high : UInt8}
    (h : sequence? lead = some (count, low, high)) : 0x80 ≤ low := by
  unfold sequence? at h
  grind

/-- Reading one character takes no ASCII byte besides the first one. -/
theorem readOne_spec (lead : UInt8) (rest : List UInt8) :
    ∀ b ∈ rest.take (readOne lead rest).2, 0x80 ≤ b := by
  unfold readOne
  split
  next => exact nofun
  next =>
    split
    next => exact nofun
    next count low high hsequence =>
      obtain ⟨htake, hall⟩ := @continuation_spec count _ high (low_of_sequence? hsequence) rest
      dsimp only
      split
      next hlength =>
        dsimp only
        rw [← hlength, htake]
        exact hall
      next =>
        dsimp only
        rw [htake]
        exact hall

/-- An ASCII byte is read as its character, whatever stands around it. -/
theorem mem_decode {b : UInt8} (hb : b < 0x80) {bytes : List UInt8} (h : b ∈ bytes) :
    Char.ofNat b.toNat ∈ decode bytes := by
  induction bytes using decode.induct with
  | case1 => cases h
  | case2 lead rest ih =>
      rw [decode]
      rcases List.mem_cons.mp h with rfl | h
      · unfold readOne
        rw [if_pos hb]
        exact List.mem_cons_self
      · rw [← List.take_append_drop (readOne lead rest).2 rest] at h
        rcases List.mem_append.mp h with h | h
        · exact absurd hb (UInt8.not_lt.mpr (readOne_spec lead rest b h))
        · exact List.mem_cons_of_mem _ (ih h)

end Utf8

/-- A byte that has no part in escapes is left where it is. -/
theorem Percent.mem_unescape {b : UInt8} (hsign : b ≠ percentSign) (hdigit : hexValue? b = none)
    {bytes : List UInt8} (h : b ∈ bytes) : b ∈ unescape bytes := by
  fun_induction unescape bytes with
  | case1 => exact h
  | case2 => exact h
  | case3 => exact h
  | case4 => grind
  | case5 => grind
  | case6 => grind

theorem Form.questionMark_mem_decode {text : List Char} (h : '?' ∈ text) : '?' ∈ decode text := by
  have hunplus : '?' ∈ unplus text := List.mem_map.mpr ⟨'?', h, by decide⟩
  have hencode : 0x3F ∈ Utf8.encode (unplus text) :=
    List.mem_flatMap.mpr ⟨'?', hunplus, by decide⟩
  exact @Utf8.mem_decode 0x3F (by decide) _ (Percent.mem_unescape (by decide) (by decide) hencode)

/-! ## Cutting text that is put together -/

/-- Where two texts meet, the last part of the first one and the first part of the second one
become one part. -/
theorem splitAll_meet (sep : Char) (text : List Char) :
    ∃ init last, splitAll sep text = init ++ [last] ∧
      ∀ {more first others}, splitAll sep more = first :: others →
        splitAll sep (text ++ more) = init ++ (last ++ first) :: others := by
  induction text with
  | nil => exact ⟨[], [], rfl, fun h => h⟩
  | cons c text ih =>
      obtain ⟨init, last, htext, hmeet⟩ := ih
      by_cases hsep : c = sep
      · refine ⟨[] :: init, last, ?_, fun {more first others} hmore => ?_⟩
        · rw [splitAll, if_pos hsep, htext]
          rfl
        · rw [List.cons_append, splitAll, if_pos hsep, hmeet hmore]
          rfl
      · -- the character goes to the front of the first part, which may be the last one
        cases init with
        | nil =>
            refine ⟨[], c :: last, ?_, fun {more first others} hmore => ?_⟩
            · rw [splitAll, if_neg hsep, htext]
              rfl
            · rw [List.cons_append, splitAll, if_neg hsep, hmeet hmore]
              rfl
        | cons part init =>
            refine ⟨(c :: part) :: init, last, ?_, fun {more first others} hmore => ?_⟩
            · rw [splitAll, if_neg hsep, htext]
              rfl
            · rw [List.cons_append, splitAll, if_neg hsep, hmeet hmore]
              rfl

namespace Form

theorem mem_parse {query part : List Char} (h : part ∈ splitAll '&' query) (hne : part ≠ []) :
    parsePart part ∈ parse query :=
  List.mem_map.mpr ⟨part, List.mem_filter.mpr ⟨h, by simpa using hne⟩, rfl⟩

/-- A name without a question mark ends before the question mark of its part. -/
theorem name_of_parsePart {part rest : List Char}
    (h : '?' ∉ (parsePart (part ++ '?' :: rest)).1) :
    part ≠ [] ∧ (parsePart part).1 = (parsePart (part ++ '?' :: rest)).1 := by
  unfold parsePart at h ⊢
  cases hsplit : splitFirst '=' (part ++ '?' :: rest) with
  | none =>
      rw [hsplit] at h
      exact absurd (questionMark_mem_decode (List.mem_append_right part List.mem_cons_self)) h
  | some parts =>
      obtain ⟨name, value⟩ := parts
      rw [hsplit] at h
      obtain ⟨heq, hname⟩ := splitFirst_eq_some_iff.mp hsplit
      have hmark : '?' ∉ name := fun hmem => h (questionMark_mem_decode hmem)
      rcases List.append_eq_append_iff.mp heq with ⟨more, rfl, hmore⟩ | ⟨more, rfl, hmore⟩
      · -- the sign stands behind the question mark, which is in the name then
        cases more with
        | nil => exact absurd (List.cons.inj hmore).1 (by decide)
        | cons c more =>
            rw [← (List.cons.inj hmore).1] at hmark
            exact absurd (List.mem_append_right part List.mem_cons_self) hmark
      · cases more with
        | nil => exact absurd (List.cons.inj hmore).1 (by decide)
        | cons c more =>
            rw [← (List.cons.inj hmore).1,
              splitFirst_eq_some_iff.mpr (⟨rfl, hname⟩ : name ++ '=' :: more = _ ∧ _)]
            exact ⟨by simp, rfl⟩

/-- A name that is read from a query with a question mark and more text behind it stands in the
query, unless it has a question mark itself or comes from the text. -/
theorem mem_parse_append {query rest : List Char} {pair : List Char × List Char}
    (h : pair ∈ parse (query ++ '?' :: rest)) (hmark : '?' ∉ pair.1)
    (hrest : ∀ other ∈ parse rest, other.1 ≠ pair.1) :
    ∃ value, (pair.1, value) ∈ parse query := by
  obtain ⟨init, last, hquery, hmeet⟩ := splitAll_meet '&' query
  obtain ⟨first, others, hparts⟩ := List.exists_cons_of_ne_nil (splitAll_ne_nil '&' rest)
  have hmarked : splitAll '&' ('?' :: rest) = ('?' :: first) :: others := by
    rw [splitAll, if_neg (by decide), hparts]
  obtain ⟨part, hpart, rfl⟩ := List.mem_map.mp h
  obtain ⟨hpart, hne⟩ := List.mem_filter.mp hpart
  have hne : part ≠ [] := by simpa using hne
  rw [hmeet hmarked] at hpart
  rcases List.mem_append.mp hpart with hinit | hpart
  · exact ⟨_, mem_parse (hquery ▸ List.mem_append_left _ hinit) hne⟩
  · rcases List.mem_cons.mp hpart with rfl | hothers
    · obtain ⟨hlast, hname⟩ := name_of_parsePart hmark
      have hmem : last ∈ splitAll '&' query := hquery ▸ List.mem_append_right _ List.mem_cons_self
      rw [← hname]
      exact ⟨_, mem_parse hmem hlast⟩
    · exact absurd rfl (hrest _ (mem_parse (hparts ▸ List.mem_cons_of_mem _ hothers) hne))

end Form

end Waymark.Text
