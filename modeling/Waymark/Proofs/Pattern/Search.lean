import Waymark.Proofs.Pattern.Repetition
import Waymark.Proofs.Pattern.BoundedRepetition

/-! # What a search finds

The search keeps one thread for each position and never follows a position twice. It still finds
a match whenever there is one: every thread that it answers is one that the pattern leads to, and
every position that the pattern leads to is the position of some thread that it answers.
-/

namespace Waymark.Pattern.Expr

variable {text : List Char}

theorem computes_run {body : Expr}
    (hbody : ∀ threads, AllOn text threads → Finds (Steps body) threads (run body threads)) :
    Computes text (fun t => run body [t]) (Steps body) := by
  intro t ht
  exact hbody [t] (.singleton ht)

/-! ## One lemma for each kind of pattern -/

variable {a b body : Expr} {threads : List Thread}

theorem finds_empty : Finds (Steps empty) threads (run empty threads) := by
  refine ⟨fun t ht => ⟨t, ht, .empty t⟩, ?_⟩
  intro s hs t hst
  cases hst
  exact ⟨s, hs, rfl⟩

theorem finds_anchor {kind : Anchor} :
    Finds (Steps (anchor kind)) threads (run (anchor kind) threads) := by
  simp only [run]
  constructor
  · intro t ht
    obtain ⟨hmem, hholds⟩ := List.mem_filter.mp ht
    exact ⟨t, hmem, .anchor hholds⟩
  · intro s hs t hst
    cases hst with
    | anchor hholds => exact ⟨s, List.mem_filter.mpr ⟨hs, hholds⟩, rfl⟩

theorem finds_one {set : CharSet} : Finds (Steps (one set)) threads (run (one set) threads) := by
  simp only [run]
  constructor
  · intro t ht
    obtain ⟨s, hs, hstep⟩ := List.mem_filterMap.mp ht
    exact ⟨s, hs, .one hstep⟩
  · intro s hs t hst
    cases hst with
    | one hstep => exact ⟨t, List.mem_filterMap.mpr ⟨s, hs, hstep⟩, rfl⟩

theorem computes_capture {name : String}
    (hbody : Computes text (fun t => run body [t]) (Steps body)) :
    Computes text (fun t => (run body [t]).map (·.remember name t.cursor))
      (Steps (capture name body)) := by
  intro t ht
  obtain ⟨hsound, hcomplete⟩ := hbody t ht
  constructor
  · intro u hu
    obtain ⟨v, hv, rfl⟩ := List.mem_map.mp hu
    obtain ⟨s, hs, hsteps⟩ := hsound v hv
    rw [List.mem_singleton.mp hs] at hsteps
    exact ⟨t, List.mem_cons_self, .capture hsteps⟩
  · intro s hs u hsu
    cases hsu with
    | capture inner =>
        obtain ⟨v, hv, hindex⟩ := hcomplete s hs _ inner
        exact ⟨v.remember name t.cursor, List.mem_map.mpr ⟨v, hv, rfl⟩, hindex⟩

theorem finds_cat (hfirst : Finds (Steps a) threads (run a threads))
    (hsecond : Finds (Steps b) (run a threads) (run b (run a threads)))
    (hthreads : AllOn text threads) :
    Finds (Steps (cat a b)) threads (run (cat a b) threads) := by
  refine (hfirst.andThen hsecond (motion_steps a) (motion_steps b) hthreads).congr ?_
  intro s u
  constructor
  · rintro ⟨t, hst, htu⟩
    exact .cat hst htu
  · intro h
    cases h with
    | cat hst htu => exact ⟨_, hst, htu⟩

theorem computes_alt (ha : Computes text (fun t => run a [t]) (Steps a))
    (hb : Computes text (fun t => run b [t]) (Steps b)) :
    Computes text (fun t => run a [t] ++ run b [t]) (Steps (alt a b)) := by
  intro t ht
  obtain ⟨hsounda, hcompletea⟩ := ha t ht
  obtain ⟨hsoundb, hcompleteb⟩ := hb t ht
  constructor
  · intro u hu
    rcases List.mem_append.mp hu with hu | hu
    · obtain ⟨s, hs, hsteps⟩ := hsounda u hu
      exact ⟨s, hs, .altLeft hsteps⟩
    · obtain ⟨s, hs, hsteps⟩ := hsoundb u hu
      exact ⟨s, hs, .altRight hsteps⟩
  · intro s hs u hsu
    cases hsu with
    | altLeft hsteps =>
        exact (hcompletea s hs u hsteps).mono fun v hv => List.mem_append_left _ hv
    | altRight hsteps =>
        exact (hcompleteb s hs u hsteps).mono fun v hv => List.mem_append_right _ hv

/-- A fixed number of rounds and then more of them find what a repetition leads to, if the numbers
that they come to are those between its bounds. -/
theorem finds_rounds {low least : Nat} {high : Option Nat} {greedy : Bool}
    {more : Thread → List Thread} {allowed : Nat → Prop}
    (hbody : ∀ threads, AllOn text threads → Finds (Steps body) threads (run body threads))
    (hthreads : AllOn text threads)
    (hmore : Computes text more fun s t => ∃ count, allowed count ∧ Rounds (Steps body) count s t)
    (hcounts : ∀ count, (low ≤ count ∧ ∀ most, high = some most → count ≤ most) ↔
      least ≤ count ∧ allowed (count - least)) :
    Finds (Steps (repeated body low high greedy)) threads
      (distinct ((times (run body) least threads).flatMap more)) := by
  have hmotion := motion_steps body
  have hentered := finds_times hmotion hbody hthreads least
  have hall := hmore.flatMap (hentered.allOn (Rounds.motion hmotion least) hthreads)
  refine ((hentered.andThen hall (Rounds.motion hmotion least)
    (Rounds.motion_exists hmotion allowed) hthreads).congr ?_).distinct
  intro s u
  rw [steps_repeated_iff]
  constructor
  · rintro ⟨t, hst, count, hcount, htu⟩
    obtain ⟨hlow, hhigh⟩ := (hcounts (least + count)).mpr
      ⟨Nat.le_add_right _ _, by rwa [Nat.add_sub_cancel_left]⟩
    exact ⟨least + count, hlow, hhigh, hst.append htu⟩
  · rintro ⟨count, hlow, hhigh, hsu⟩
    obtain ⟨hle, hallowed⟩ := (hcounts count).mp ⟨hlow, hhigh⟩
    rw [← Nat.add_sub_cancel' hle] at hsu
    obtain ⟨t, hst, htu⟩ := hsu.split
    exact ⟨t, hst, count - least, hallowed, htu⟩

theorem finds_repeated {low : Nat} {high : Option Nat} {greedy : Bool}
    (hbody : ∀ threads, AllOn text threads → Finds (Steps body) threads (run body threads))
    (hthreads : AllOn text threads) :
    Finds (Steps (repeated body low high greedy)) threads
      (run (repeated body low high greedy) threads) := by
  have hstep := computes_run hbody
  simp only [run]
  split
  next most =>
    split
    next hlt =>
      -- no number of rounds is at least `low` and at most `most`
      refine ⟨by simp, fun s _ t hst => ?_⟩
      obtain ⟨count, hle, hmost, -⟩ := steps_repeated_iff.mp hst
      exact absurd (hmost most rfl) (by omega)
    next hle =>
      apply finds_rounds hbody hthreads
        (computes_upTo greedy (motion_steps body) hstep (most - low))
      intro count
      simp only [Option.some.injEq, forall_eq']
      omega
  next =>
    split
    next =>
      have hmore := (computes_zeroOrMore greedy (motion_steps body) hstep).flatMap hthreads
      refine (hmore.congr fun s u => ?_).distinct
      simp [steps_repeated_iff]
    next least =>
      apply finds_rounds hbody hthreads (computes_oneOrMore greedy (motion_steps body) hstep)
      intro count
      simp only [reduceCtorEq, false_implies, implies_true, and_true]
      omega

/-! ## Every pattern -/

/-- Running a pattern finds what its ways lead to. -/
theorem finds_run (e : Expr) {threads : List Thread} (hthreads : AllOn text threads) :
    Finds (Steps e) threads (run e threads) := by
  induction e generalizing threads with
  | empty => exact finds_empty
  | anchor kind => exact finds_anchor
  | one set => exact finds_one
  | capture name body ih =>
      simp only [run]
      exact ((computes_capture (computes_run @ih)).flatMap hthreads).distinct
  | cat a b iha ihb =>
      have hfirst := iha hthreads
      exact finds_cat hfirst (ihb (hfirst.allOn (motion_steps a) hthreads)) hthreads
  | alt a b iha ihb =>
      simp only [run]
      exact ((computes_alt (computes_run @iha) (computes_run @ihb)).flatMap hthreads).distinct
  | repeated body low high greedy ih => exact finds_repeated @ih hthreads

theorem computes_steps (e : Expr) : Computes text (fun t => run e [t]) (Steps e) :=
  fun _ ht => finds_run e (.singleton ht)

variable {e : Expr} {s t : Thread} {cursor : Cursor}

theorem steps_of_mem_run (hs : s.cursor.On text) (h : t ∈ run e [s]) : Steps e s t := by
  obtain ⟨s', hs', hsteps⟩ := (computes_steps e s hs).sound t h
  rwa [List.mem_singleton.mp hs'] at hsteps

theorem isSome_head?_run (hs : s.cursor.On text) (h : Steps e s t) :
    (run e [s]).head?.isSome := by
  obtain ⟨u, hu, -⟩ := (computes_steps e s hs).complete s List.mem_cons_self t h
  rw [List.isSome_head?]
  exact List.ne_nil_of_mem hu

/-- What a search answers is a match: the pattern leads to it from some position. -/
theorem search_sound (h : e.search text = some t) :
    ∃ cursor : Cursor, cursor.On text ∧ Steps e ⟨cursor, []⟩ t := by
  obtain ⟨cursor, hmem, hhead⟩ := List.exists_of_findSome?_eq_some h
  have hon := Cursor.mem_positions.mp hmem
  exact ⟨cursor, hon, steps_of_mem_run hon (List.mem_of_mem_head? hhead)⟩

/-- A search answers if there is a match anywhere. -/
theorem search_isSome (hon : cursor.On text) (h : Steps e ⟨cursor, []⟩ t) :
    (e.search text).isSome := by
  rw [search, List.findSome?_isSome_iff]
  exact ⟨cursor, Cursor.mem_positions.mpr hon, isSome_head?_run hon h⟩

end Waymark.Pattern.Expr
