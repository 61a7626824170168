import Mathlib.Computability.Language
import Waymark.Proofs.Pattern.Positions

/-! # The language of a pattern

A pattern that does not look at the position spells a set of texts, made of single characters by
union, concatenation and repetition. What such a pattern consumes on the way from one thread to
another is a text of its language, and every text of its language can be consumed.
-/

namespace Waymark.Pattern

/-- All characters but line breaks. -/
def CharSet.notBreak : CharSet := .compl (.only '\n')

namespace Expr

/-- Whether a pattern never looks at the position. -/
def isPlain : Expr → Bool
  | anchor _ => false
  | capture _ body => body.isPlain
  | cat a b => a.isPlain && b.isPlain
  | alt a b => a.isPlain && b.isPlain
  | repeated body _ _ _ => body.isPlain
  | _ => true

/-- The texts that a pattern spells. A condition on the position spells none. -/
def language : Expr → Language Char
  | empty => 1
  | anchor _ => 0
  | one set => {word | ∃ c, set.contains c = true ∧ word = [c]}
  | capture _ body => body.language
  | cat a b => a.language * b.language
  | alt a b => a.language + b.language
  | repeated body low high _ =>
      {word | ∃ count, low ≤ count ∧ (∀ most, high = some most → count ≤ most) ∧
        word ∈ body.language ^ count}

variable {e body : Expr} {s t : Thread} {word rest : List Char}

/-- One character is enough for a pattern that asks for one or more. -/
theorem singleton_mem_language {set : CharSet} {c : Char} {high : Option Nat} {greedy : Bool}
    (h : set.contains c = true) (hhigh : ∀ most, high = some most → 1 ≤ most) :
    [c] ∈ (repeated (one set) 1 high greedy).language := by
  refine ⟨1, Nat.le_refl 1, hhigh, ?_⟩
  rw [pow_one]
  exact ⟨c, h, rfl⟩

theorem mem_language_only {c : Char} : word ∈ (one (.only c)).language ↔ word = [c] := by
  constructor
  · rintro ⟨d, hd, rfl⟩
    rw [CharSet.contains, beq_iff_eq] at hd
    rw [hd]
  · rintro rfl
    exact ⟨c, beq_self_eq_true c, rfl⟩

/-- A repetition of a set spells the characters of the set, as many as it asks for at least. -/
theorem mem_language_repeated_iff {set : CharSet} {low : Nat} {greedy : Bool} :
    word ∈ (repeated (one set) low none greedy).language ↔
      low ≤ word.length ∧ ∀ c ∈ word, set.contains c = true := by
  constructor
  · rintro ⟨count, hlow, -, hword⟩
    obtain ⟨parts, rfl, hcount, hparts⟩ := Language.mem_pow.mp hword
    have hsingle : ∀ part ∈ parts, part.length = 1 := by
      intro part hpart
      obtain ⟨c, -, rfl⟩ := hparts part hpart
      rfl
    refine ⟨?_, fun c hc => ?_⟩
    · rw [List.length_flatten, List.map_congr_left hsingle, List.map_const',
        List.sum_replicate_nat, hcount, Nat.mul_one]
      exact hlow
    · obtain ⟨part, hpart, hc⟩ := List.mem_flatten.mp hc
      obtain ⟨d, hd, rfl⟩ := hparts part hpart
      rwa [List.mem_singleton.mp hc]
  · rintro ⟨hlow, hword⟩
    refine ⟨word.length, hlow, nofun, Language.mem_pow.mpr ⟨word.map fun c => [c], ?_⟩⟩
    refine ⟨(List.flatMap_singleton' word).symm, List.length_map _, ?_⟩
    intro part hpart
    obtain ⟨c, hc, rfl⟩ := List.mem_map.mp hpart
    exact ⟨c, hword c hc, rfl⟩

/-- Any number of characters but line breaks spell a line. -/
theorem mem_language_line {greedy : Bool} :
    word ∈ (repeated (one .notBreak) 0 none greedy).language ↔ '\n' ∉ word := by
  rw [mem_language_repeated_iff, CharSet.notBreak]
  simp only [Nat.zero_le, true_and, CharSet.contains, Bool.not_eq_true', beq_eq_false_iff_ne]
  exact ⟨fun h hmem => h _ hmem rfl, fun h c hc hbreak => h (hbreak ▸ hc)⟩

/-- One copy at most spells the empty text and what the body spells. -/
theorem language_optional (body : Expr) (greedy : Bool) :
    (repeated body 0 (some 1) greedy).language = 1 + body.language := by
  ext word
  rw [Language.mem_add]
  constructor
  · rintro ⟨count, -, hmost, hword⟩
    rcases Nat.le_one_iff_eq_zero_or_eq_one.mp (hmost 1 rfl) with rfl | rfl
    · rw [pow_zero] at hword
      exact .inl hword
    · rw [pow_one] at hword
      exact .inr hword
  · rintro (hword | hword)
    · exact ⟨0, Nat.le_refl 0, fun _ _ => Nat.zero_le _, by rwa [pow_zero]⟩
    · exact ⟨1, Nat.zero_le 1, fun _ h => Nat.le_of_eq (Option.some.inj h), by rwa [pow_one]⟩

/-- Rounds consume the words of their steps one after another. -/
theorem Rounds.consumes {leads : Thread → Thread → Prop} {language : Language Char} {count : Nat}
    (hleads : ∀ s t, leads s t → ∃ word ∈ language, s.cursor.rest = word ++ t.cursor.rest)
    (h : Rounds leads count s t) :
    ∃ word ∈ language ^ count, s.cursor.rest = word ++ t.cursor.rest := by
  induction h with
  | none t => exact ⟨[], by rw [pow_zero]; exact Language.nil_mem_one, rfl⟩
  | more first _ ih =>
      obtain ⟨word, hword, hfirst⟩ := hleads _ _ first
      obtain ⟨others, hothers, hrest⟩ := ih
      refine ⟨word ++ others, ?_, by rw [hfirst, hrest, List.append_assoc]⟩
      rw [pow_succ']
      exact Language.append_mem_mul hword hothers

/-- What a pattern consumes is a text of its language. -/
theorem Steps.consumes (h : Steps e s t) (hplain : e.isPlain = true) :
    ∃ word ∈ e.language, s.cursor.rest = word ++ t.cursor.rest := by
  induction e generalizing s t with
  | empty =>
      cases h
      exact ⟨[], Language.nil_mem_one, rfl⟩
  | anchor => simp [isPlain] at hplain
  | one set =>
      cases h with
      | one step =>
          obtain ⟨char, rest, hrest, hmem, rfl⟩ := Thread.advance?_eq_some_iff.mp step
          exact ⟨[char], ⟨char, hmem, rfl⟩, hrest⟩
  | capture name body ih =>
      cases h with
      | capture inner =>
          obtain ⟨word, hword, hrest⟩ := ih inner hplain
          exact ⟨word, hword, hrest⟩
  | cat a b iha ihb =>
      simp only [isPlain, Bool.and_eq_true] at hplain
      cases h with
      | cat first second =>
          obtain ⟨v, hv, hfirst⟩ := iha first hplain.1
          obtain ⟨w, hw, hsecond⟩ := ihb second hplain.2
          exact ⟨v ++ w, Language.append_mem_mul hv hw, by rw [hfirst, hsecond, List.append_assoc]⟩
  | alt a b iha ihb =>
      simp only [isPlain, Bool.and_eq_true] at hplain
      cases h with
      | altLeft left =>
          obtain ⟨word, hword, hrest⟩ := iha left hplain.1
          exact ⟨word, .inl hword, hrest⟩
      | altRight right =>
          obtain ⟨word, hword, hrest⟩ := ihb right hplain.2
          exact ⟨word, .inr hword, hrest⟩
  | repeated body low high greedy ih =>
      obtain ⟨count, hlow, hmost, hrounds⟩ := steps_repeated_iff.mp h
      obtain ⟨word, hword, hrest⟩ := hrounds.consumes fun _ _ hst => ih hst hplain
      exact ⟨word, ⟨count, hlow, hmost, hword⟩, hrest⟩

theorem exists_rounds {leads : Thread → Thread → Prop} {language : Language Char} {count : Nat}
    (hleads : ∀ s word rest, word ∈ language → s.cursor.rest = word ++ rest →
      ∃ t, leads s t ∧ t.cursor.rest = rest)
    (hword : word ∈ language ^ count) (hrest : s.cursor.rest = word ++ rest) :
    ∃ t, Rounds leads count s t ∧ t.cursor.rest = rest := by
  induction count generalizing s word with
  | zero =>
      rw [pow_zero, Language.mem_one] at hword
      subst hword
      exact ⟨s, .none s, hrest⟩
  | succ count ih =>
      rw [pow_succ', Language.mem_mul] at hword
      obtain ⟨first, hfirst, others, hothers, rfl⟩ := hword
      obtain ⟨t, hst, ht⟩ := hleads s first (others ++ rest) hfirst
        (by rw [hrest, List.append_assoc])
      obtain ⟨u, htu, hu⟩ := ih hothers ht
      exact ⟨u, .more hst htu, hu⟩

/-- A text of its language is one that a pattern can consume. -/
theorem exists_steps (hword : word ∈ e.language) (hrest : s.cursor.rest = word ++ rest) :
    ∃ t, Steps e s t ∧ t.cursor.rest = rest := by
  induction e generalizing s word rest with
  | empty =>
      rw [language, Language.mem_one] at hword
      subst hword
      exact ⟨s, .empty s, hrest⟩
  | anchor => exact absurd hword (Language.notMem_zero word)
  | one set =>
      obtain ⟨c, hmem, rfl⟩ := hword
      exact ⟨_, .one (Thread.advance?_eq_some_iff.mpr ⟨c, rest, hrest, hmem, rfl⟩), rfl⟩
  | capture name body ih =>
      obtain ⟨t, hst, ht⟩ := ih hword hrest
      exact ⟨_, .capture hst, ht⟩
  | cat a b iha ihb =>
      obtain ⟨v, hv, w, hw, rfl⟩ := Language.mem_mul.mp hword
      obtain ⟨t, hst, ht⟩ := @iha s v (w ++ rest) hv (by rw [hrest, List.append_assoc])
      obtain ⟨u, htu, hu⟩ := ihb hw ht
      exact ⟨u, .cat hst htu, hu⟩
  | alt a b iha ihb =>
      rcases hword with hword | hword
      · obtain ⟨t, hst, ht⟩ := iha hword hrest
        exact ⟨t, .altLeft hst, ht⟩
      · obtain ⟨t, hst, ht⟩ := ihb hword hrest
        exact ⟨t, .altRight hst, ht⟩
  | repeated body low high greedy ih =>
      obtain ⟨count, hlow, hmost, hword⟩ := hword
      obtain ⟨t, hrounds, ht⟩ := exists_rounds (fun _ _ _ h hs => ih h hs) hword hrest
      exact ⟨t, steps_repeated_iff.mpr ⟨count, hlow, hmost, hrounds⟩, ht⟩

end Expr

/-! ## Groups -/

namespace Thread

theorem lookup_remember (name : String) (origin : Cursor) (t : Thread) :
    (t.remember name origin).groups.lookup name = some (origin, t.cursor) := by
  simp [remember]

theorem lookup_remember_of_ne {name other : String} (hne : other ≠ name) (origin : Cursor)
    (t : Thread) : (t.remember name origin).groups.lookup other = t.groups.lookup other := by
  have hfilter : ∀ groups : List (String × Cursor × Cursor),
      (groups.filter (·.1 ≠ name)).lookup other = groups.lookup other := by
    intro groups
    induction groups with
    | nil => rfl
    | cons group rest ih =>
        by_cases hgroup : group.1 = name
        · have hother : (other == group.1) = false := by
            rw [hgroup]
            exact beq_false_of_ne hne
          rw [List.filter_cons_of_neg (by simpa using hgroup), ih, List.lookup_cons, hother]
        · rw [List.filter_cons_of_pos (by simpa using hgroup), List.lookup_cons, List.lookup_cons,
            ih]
  rw [remember, List.lookup_cons, beq_false_of_ne hne]
  exact hfilter t.groups

/-- What a group captured is the text that was consumed from where it began. -/
theorem group?_remember {text word : List Char} {name : String} {s t : Thread}
    (hs : s.cursor.On text) (ht : t.cursor.On text) (h : s.cursor.rest = word ++ t.cursor.rest) :
    (t.remember name s.cursor).group? name = some word := by
  have hslength := hs.index_add_length
  have htlength := ht.index_add_length
  rw [h, List.length_append] at hslength
  rw [group?, lookup_remember, Option.map_some, Cursor.textUntil, h,
    show t.cursor.index - s.cursor.index = word.length by omega, List.take_left]

end Thread

/-- A group stands for what its body consumed. -/
theorem Expr.Steps.captured {body : Expr} {text : List Char} {name : String} {s t : Thread}
    (h : Steps (.capture name body) s t) (hplain : body.isPlain = true) (hs : s.cursor.On text) :
    ∃ word ∈ body.language, s.cursor.rest = word ++ t.cursor.rest ∧ t.group? name = some word := by
  have ht := h.on hs
  cases h with
  | capture inner =>
      obtain ⟨word, hword, hrest⟩ := inner.consumes hplain
      exact ⟨word, hword, hrest, Thread.group?_remember hs ht hrest⟩

/-- A pattern leaves the groups of other names alone. -/
theorem Expr.Steps.lookup_eq {e : Expr} {s t : Thread} {name : String} (h : Steps e s t)
    (hname : name ∉ e.groupNames) : t.groups.lookup name = s.groups.lookup name := by
  induction h with
  | empty | anchor | done => rfl
  | one step =>
      obtain ⟨_, _, -, -, rfl⟩ := Thread.advance?_eq_some_iff.mp step
      rfl
  | capture _ ih =>
      simp only [groupNames, List.mem_cons, not_or] at hname
      rw [Thread.lookup_remember_of_ne hname.1, ih hname.2]
  | cat _ _ ihfirst ihsecond =>
      simp only [groupNames, List.mem_append, not_or] at hname
      rw [ihsecond hname.2, ihfirst hname.1]
  | altLeft _ ih =>
      simp only [groupNames, List.mem_append, not_or] at hname
      exact ih hname.1
  | altRight _ ih =>
      simp only [groupNames, List.mem_append, not_or] at hname
      exact ih hname.2
  | round _ _ _ ihfirst ihrest => rw [ihrest hname, ihfirst hname]

theorem Expr.Steps.group?_eq {e : Expr} {s t : Thread} {name : String} (h : Steps e s t)
    (hname : name ∉ e.groupNames) : t.group? name = s.group? name := by
  rw [Thread.group?, h.lookup_eq hname]
  rfl

end Waymark.Pattern
