import Waymark.Pattern.Expr

/-! # Positions of a text

Every cursor that a search meets tells the truth about one fixed text, so its index alone
determines it. The ways through a pattern only look at cursors: the groups remembered before a
pattern neither help nor hinder it.
-/

namespace Waymark.Pattern

namespace Cursor

/-- A cursor stands in a text: what it says about the text around it is true. -/
def On (text : List Char) (c : Cursor) : Prop :=
  ∃ front, text = front ++ c.rest ∧ c.index = front.length ∧ c.before = front.getLast?

variable {text : List Char} {c d : Cursor}

theorem start_on (text : List Char) : (start text).On text := ⟨[], rfl, rfl, rfl⟩

theorem On.index_add_length (h : c.On text) : c.index + c.rest.length = text.length := by
  obtain ⟨front, htext, hindex, -⟩ := h
  rw [htext, hindex, List.length_append]

/-- In one text the index determines the cursor. -/
theorem On.eq_of_index (hc : c.On text) (hd : d.On text) (hindex : c.index = d.index) :
    c = d := by
  obtain ⟨front, htext, hcindex, hcbefore⟩ := hc
  obtain ⟨front', htext', hdindex, hdbefore⟩ := hd
  obtain ⟨hfront, hrest⟩ := List.append_inj (htext.symm.trans htext')
    (by rw [← hcindex, ← hdindex, hindex])
  cases c
  cases d
  simp_all

/-- The cursor behind the next character. -/
theorem On.next {index : Nat} {before : Option Char} {char : Char} {rest : List Char}
    (h : On text ⟨index, before, char :: rest⟩) : On text ⟨index + 1, some char, rest⟩ := by
  obtain ⟨front, htext, hindex, -⟩ := h
  dsimp only at htext hindex
  exact ⟨front ++ [char], by simp [htext], by simp [hindex], by simp⟩

/-- At the front of a text there is one cursor. -/
theorem On.eq_start (h : c.On text) (hfront : Anchor.textStart.holds c = true) :
    c = start text := by
  obtain ⟨front, htext, hindex, hbefore⟩ := h
  obtain rfl : front = [] := by
    simpa [Anchor.holds, hbefore] using hfront
  cases c
  simp_all [start]

theorem mem_positions_iff {index : Nat} {before : Option Char} {rest : List Char}
    (h : On text ⟨index, before, rest⟩) :
    c ∈ positions index before rest ↔ c.On text ∧ index ≤ c.index := by
  induction rest generalizing index before with
  | nil =>
      simp only [positions, List.mem_singleton]
      constructor
      · rintro rfl
        exact ⟨h, Nat.le_refl _⟩
      · rintro ⟨hon, hle⟩
        have hlength := hon.index_add_length
        have hlength' := h.index_add_length
        simp only [List.length_nil] at hlength'
        exact hon.eq_of_index h (by dsimp only; omega)
  | cons char rest ih =>
      simp only [positions, List.mem_cons, ih h.next]
      constructor
      · rintro (rfl | ⟨hon, hle⟩)
        · exact ⟨h, Nat.le_refl _⟩
        · exact ⟨hon, by omega⟩
      · rintro ⟨hon, hle⟩
        by_cases heq : c.index = index
        · exact .inl (hon.eq_of_index h heq)
        · exact .inr ⟨hon, by omega⟩

/-- The positions of a text are exactly its cursors. -/
theorem mem_positions {text : List Char} : c ∈ positions 0 none text ↔ c.On text := by
  simpa using mem_positions_iff (start_on text)

end Cursor

namespace Thread

variable {set : CharSet} {s t : Thread}

theorem advance?_eq_some_iff :
    s.advance? set = some t ↔
      ∃ char rest, s.cursor.rest = char :: rest ∧ set.contains char = true ∧
        t = ⟨⟨s.cursor.index + 1, some char, rest⟩, s.groups⟩ := by
  unfold advance?
  cases hrest : s.cursor.rest with
  | nil => simp
  | cons char rest =>
      simp only [Option.ite_none_right_eq_some, Option.some.injEq, List.cons.injEq]
      constructor
      · rintro ⟨hmem, rfl⟩
        exact ⟨char, rest, ⟨rfl, rfl⟩, hmem, rfl⟩
      · rintro ⟨_, _, ⟨rfl, rfl⟩, hmem, rfl⟩
        exact ⟨hmem, rfl⟩

@[simp]
theorem cursor_remember (name : String) (origin : Cursor) (t : Thread) :
    (t.remember name origin).cursor = t.cursor := rfl

end Thread

namespace Expr

variable {e body : Expr} {s t u : Thread} {text : List Char}

namespace Steps

theorem on (h : Steps e s t) (hs : s.cursor.On text) : t.cursor.On text := by
  induction h with
  | empty | anchor | done => exact hs
  | @one set s t step =>
      obtain ⟨char, rest, hrest, -, rfl⟩ := Thread.advance?_eq_some_iff.mp step
      have hcursor : s.cursor = ⟨s.cursor.index, s.cursor.before, char :: rest⟩ := by rw [← hrest]
      rw [hcursor] at hs
      exact hs.next
  | capture _ ih => exact ih hs
  | cat _ _ ihfirst ihsecond => exact ihsecond (ihfirst hs)
  | altLeft _ ih | altRight _ ih => exact ih hs
  | round _ _ _ ihfirst ihrest => exact ihrest (ihfirst hs)

theorem index_le (h : Steps e s t) : s.index ≤ t.index := by
  induction h with
  | empty | anchor | done => exact Nat.le_refl _
  | one step =>
      obtain ⟨char, rest, -, -, rfl⟩ := Thread.advance?_eq_some_iff.mp step
      exact Nat.le_succ _
  | capture _ ih => exact ih
  | cat _ _ ihfirst ihsecond => exact Nat.le_trans ihfirst ihsecond
  | altLeft _ ih | altRight _ ih => exact ih
  | round _ _ _ ihfirst ihrest => exact Nat.le_trans ihfirst ihrest

end Steps

theorem steps_anchor_iff {kind : Anchor} :
    Steps (anchor kind) s t ↔ kind.holds s.cursor = true ∧ t = s := by
  constructor
  · intro h
    cases h with
    | anchor holds => exact ⟨holds, rfl⟩
  · rintro ⟨holds, rfl⟩
    exact .anchor holds

theorem steps_cat_iff {a b : Expr} : Steps (cat a b) s u ↔ ∃ t, Steps a s t ∧ Steps b t u := by
  constructor
  · intro h
    cases h with
    | cat first second => exact ⟨_, first, second⟩
  · rintro ⟨t, first, second⟩
    exact .cat first second

/-- What ends at the end of a text leaves nothing. -/
theorem steps_atEnd_iff {a : Expr} :
    Steps (cat a (anchor .textEnd)) s t ↔ Steps a s t ∧ t.cursor.rest = [] := by
  have hend : Anchor.textEnd.holds t.cursor = true ↔ t.cursor.rest = [] := by
    simp [Anchor.holds]
  rw [steps_cat_iff, ← hend]
  constructor
  · rintro ⟨u, hsteps, h⟩
    obtain ⟨hholds, rfl⟩ := steps_anchor_iff.mp h
    exact ⟨hsteps, hholds⟩
  · rintro ⟨hsteps, hholds⟩
    exact ⟨t, hsteps, .anchor hholds⟩

/-- What begins at the front of a text begins at one position. -/
theorem steps_atStart_iff {a : Expr} {cursor : Cursor} (hon : cursor.On text) :
    Steps (cat (anchor .textStart) a) ⟨cursor, []⟩ t ↔
      cursor = .start text ∧ Steps a ⟨.start text, []⟩ t := by
  rw [steps_cat_iff]
  constructor
  · rintro ⟨u, hfront, hsteps⟩
    obtain ⟨hholds, rfl⟩ := steps_anchor_iff.mp hfront
    obtain rfl := hon.eq_start hholds
    exact ⟨rfl, hsteps⟩
  · rintro ⟨rfl, hsteps⟩
    exact ⟨_, .anchor rfl, hsteps⟩

/-- A relation on threads that only looks at cursors: other groups do not change where a thread
can go. -/
def Uniform (leads : Thread → Thread → Prop) : Prop :=
  ∀ ⦃s t s' : Thread⦄, leads s t → s'.cursor = s.cursor →
    ∃ t', leads s' t' ∧ t'.cursor = t.cursor

theorem uniform_steps (e : Expr) : Uniform (Steps e) := by
  intro s t s' h hcursor
  induction h generalizing s' with
  | empty => exact ⟨s', .empty s', hcursor⟩
  | anchor holds => exact ⟨s', .anchor (hcursor ▸ holds), hcursor⟩
  | one step =>
      obtain ⟨char, rest, hrest, hmem, rfl⟩ := Thread.advance?_eq_some_iff.mp step
      exact ⟨⟨⟨s'.cursor.index + 1, some char, rest⟩, s'.groups⟩,
        .one (Thread.advance?_eq_some_iff.mpr ⟨char, rest, by rw [hcursor, hrest], hmem, rfl⟩),
        by rw [hcursor]⟩
  | capture _ ih =>
      obtain ⟨t', hsteps, ht⟩ := ih hcursor
      exact ⟨_, .capture hsteps, ht⟩
  | cat _ _ ihfirst ihsecond =>
      obtain ⟨t', hfirst, ht⟩ := ihfirst hcursor
      obtain ⟨u', hsecond, hu⟩ := ihsecond ht
      exact ⟨u', .cat hfirst hsecond, hu⟩
  | altLeft _ ih =>
      obtain ⟨t', hsteps, ht⟩ := ih hcursor
      exact ⟨t', .altLeft hsteps, ht⟩
  | altRight _ ih =>
      obtain ⟨t', hsteps, ht⟩ := ih hcursor
      exact ⟨t', .altRight hsteps, ht⟩
  | done => exact ⟨s', .done s', hcursor⟩
  | round room _ _ ihfirst ihrest =>
      obtain ⟨t', hfirst, ht⟩ := ihfirst hcursor
      obtain ⟨u', hrest, hu⟩ := ihrest ht
      exact ⟨u', .round room hfirst hrest, hu⟩

/-- A relation on threads applied a fixed number of times. -/
inductive Rounds (leads : Thread → Thread → Prop) : Nat → Thread → Thread → Prop
  | none (t : Thread) : Rounds leads 0 t t
  | more {count : Nat} {s t u : Thread} (first : leads s t) (rest : Rounds leads count t u) :
      Rounds leads (count + 1) s u

/-- A repetition leads wherever some number of copies between its bounds leads. -/
theorem steps_repeated_iff {low : Nat} {high : Option Nat} {greedy : Bool} :
    Steps (repeated body low high greedy) s t ↔
      ∃ count, low ≤ count ∧ (∀ most, high = some most → count ≤ most) ∧
        Rounds (Steps body) count s t := by
  constructor
  · intro h
    -- the bounds shrink from round to round, so the induction is over every repetition of the body
    generalize hpattern : repeated body low high greedy = pattern at h
    induction h generalizing low high with
    | done t =>
        injection hpattern with hbody hlow hhigh hgreedy
        subst hbody hlow
        exact ⟨0, Nat.le_refl _, fun _ _ => Nat.zero_le _, .none t⟩
    | round room first _ _ ih =>
        injection hpattern with hbody hlow hhigh hgreedy
        subst hbody hlow hhigh hgreedy
        obtain ⟨count, hcount, hmost, hrounds⟩ := ih rfl
        refine ⟨count + 1, by omega, ?_, .more first hrounds⟩
        rintro most rfl
        have hle := hmost (most - 1) rfl
        have hne : most ≠ 0 := fun hzero => room (by rw [hzero])
        omega
    | _ => simp at hpattern
  · rintro ⟨count, hlow, hmost, hrounds⟩
    induction hrounds generalizing low high with
    | none t =>
        obtain rfl : low = 0 := by omega
        exact .done t
    | more first _ ih =>
        refine .round ?_ first (ih (by omega) ?_)
        · rintro rfl
          exact absurd (hmost 0 rfl) (by omega)
        · intro most hmap
          obtain ⟨bound, rfl, rfl⟩ := Option.map_eq_some_iff.mp hmap
          have hle := hmost bound rfl
          omega

/-- What every way through a pattern has in common with a single step: it keeps to the text,
never goes back, and does not look at groups. -/
structure Motion (leads : Thread → Thread → Prop) : Prop where
  uniform : Uniform leads
  on : ∀ ⦃text s t⦄, leads s t → s.cursor.On text → t.cursor.On text
  index_le : ∀ ⦃s t⦄, leads s t → s.index ≤ t.index

theorem motion_steps (e : Expr) : Motion (Steps e) :=
  ⟨uniform_steps e, fun _ _ _ h => h.on, fun _ _ h => h.index_le⟩

namespace Rounds

variable {leads leads' : Thread → Thread → Prop} {count : Nat}

theorem mono (hle : ∀ s t, leads s t → leads' s t) (h : Rounds leads count s t) :
    Rounds leads' count s t := by
  induction h with
  | none t => exact .none t
  | more first _ ih => exact .more (hle _ _ first) ih

theorem motion (hmotion : Motion leads) (count : Nat) : Motion (Rounds leads count) where
  uniform := by
    intro s t s' h hcursor
    induction h generalizing s' with
    | none => exact ⟨s', .none s', hcursor⟩
    | more first _ ih =>
        obtain ⟨t', hfirst, ht⟩ := hmotion.uniform first hcursor
        obtain ⟨u', hrest, hu⟩ := ih ht
        exact ⟨u', .more hfirst hrest, hu⟩
  on := by
    intro text s t h hs
    induction h with
    | none => exact hs
    | more first _ ih => exact ih (hmotion.on first hs)
  index_le := by
    intro s t h
    induction h with
    | none => exact Nat.le_refl _
    | more first _ ih => exact Nat.le_trans (hmotion.index_le first) ih

/-- Some number of rounds, as long as the number is allowed, is a motion as well. -/
theorem motion_exists (hmotion : Motion leads) (allowed : Nat → Prop) :
    Motion fun s t => ∃ count, allowed count ∧ Rounds leads count s t where
  uniform := by
    rintro s t s' ⟨count, hallowed, hst⟩ hcursor
    obtain ⟨t', hst', ht'⟩ := (motion hmotion count).uniform hst hcursor
    exact ⟨t', ⟨count, hallowed, hst'⟩, ht'⟩
  on := fun _ _ _ ⟨count, _, hst⟩ hs => (motion hmotion count).on hst hs
  index_le := fun _ _ ⟨count, _, hst⟩ => (motion hmotion count).index_le hst

theorem append {first second : Nat} (hfirst : Rounds leads first s t)
    (hsecond : Rounds leads second t u) : Rounds leads (first + second) s u := by
  induction hfirst with
  | none => simpa using hsecond
  | more step _ ih =>
      rw [Nat.add_right_comm]
      exact .more step (ih hsecond)

theorem split {first second : Nat} (h : Rounds leads (first + second) s u) :
    ∃ t, Rounds leads first s t ∧ Rounds leads second t u := by
  induction first generalizing s with
  | zero => exact ⟨s, .none s, by simpa using h⟩
  | succ first ih =>
      rw [Nat.add_right_comm] at h
      cases h with
      | more step rest =>
          obtain ⟨t, hfirst, hsecond⟩ := ih rest
          exact ⟨t, .more step hfirst, hsecond⟩

end Rounds

end Expr

end Waymark.Pattern
