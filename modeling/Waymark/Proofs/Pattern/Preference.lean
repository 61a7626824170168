import Waymark.Proofs.Pattern.Search

/-! # Which match is preferred

Threads are run in order of preference. Of several threads at one position the search keeps the one
that stands in front, and it loses nothing by that: whatever is looked for behind a pattern is
found from the first thread that leads there. So the preferred way through two patterns goes by the
first thread behind the one from which the other goes on, and behind a repetition that prefers few
characters this is the thread that took the fewest of them.
-/

namespace Waymark.Pattern

open Pattern.Expr

variable {text : List Char} {β : Type} {g : Thread → Option β} {threads : List Thread}

/-! ## One thread for each position -/

/-- Whether something is found from a thread depends on its position alone. -/
def ByPosition (text : List Char) (g : Thread → Option β) : Prop :=
  ∀ ⦃s t : Thread⦄, s.cursor.On text → t.cursor.On text → s.index = t.index →
    (g s).isSome → (g t).isSome

theorem byPosition_some : ByPosition text (some : Thread → Option Thread) :=
  fun _ _ _ _ _ _ => rfl

/-- What is looked for behind a motion is found by position as well. -/
theorem ByPosition.behind {step : Thread → List Thread} {leads : Thread → Thread → Prop}
    (hg : ByPosition text g) (hmotion : Motion leads) (hstep : Computes text step leads) :
    ByPosition text fun t => (step t).findSome? g := by
  intro s t hs ht hindex hsome
  rw [List.findSome?_isSome_iff] at hsome ⊢
  obtain ⟨u, hu, hgu⟩ := hsome
  obtain ⟨s', hs', hsu⟩ := (hstep s hs).sound u hu
  rw [List.mem_singleton.mp hs'] at hsu
  obtain ⟨v, htv, hv⟩ := hmotion.uniform hsu (ht.eq_of_index hs hindex.symm)
  obtain ⟨w, hw, hwindex⟩ := (hstep t ht).complete t List.mem_cons_self v htv
  refine ⟨w, hw, hg (hmotion.on hsu hs) ?_ ?_ hgu⟩
  · exact (hstep t ht).allOn hmotion (.singleton ht) w hw
  · exact (hwindex.trans (congrArg Cursor.index hv)).symm

theorem findSome?_distinctFrom {seen : Marks} (hg : ByPosition text g)
    (hthreads : AllOn text threads)
    (hseen : ∀ t ∈ threads, seen.contains t.index = true → g t = none) :
    (distinctFrom seen threads).findSome? g = threads.findSome? g := by
  induction threads generalizing seen with
  | nil => rfl
  | cons t rest ih =>
      obtain ⟨ht, hrest⟩ := List.forall_mem_cons.mp hthreads
      obtain ⟨hseent, hseenrest⟩ := List.forall_mem_cons.mp hseen
      unfold distinctFrom
      split
      next hmark => rw [ih hrest hseenrest, List.findSome?_cons, hseent hmark]
      next hmark =>
        rw [List.findSome?_cons, List.findSome?_cons]
        cases hgt : g t with
        | some b => rfl
        | none =>
            refine ih hrest fun u hu hmark' => ?_
            rw [Marks.contains_insert, Bool.or_eq_true, beq_iff_eq] at hmark'
            rcases hmark' with hmark' | hindex
            · exact hseenrest u hu hmark'
            · -- the later thread stands where nothing was found
              rw [← Option.not_isSome_iff_eq_none]
              intro hsome
              have hsome' := hg (hrest u hu) ht hindex.symm hsome
              rw [hgt] at hsome'
              cases hsome'

/-- What is found from some threads is found from those that are kept. -/
theorem findSome?_distinct (hg : ByPosition text g) (hthreads : AllOn text threads) :
    (distinct threads).findSome? g = threads.findSome? g :=
  findSome?_distinctFrom hg hthreads fun t _ hmark => by
    rw [Marks.contains_empty] at hmark
    cases hmark

/-! ## Threads in order of preference -/

/-- Whatever is looked for behind a step of many threads is found from the first thread that leads
there. -/
def InOrder (text : List Char) (stepAll : List Thread → List Thread) : Prop :=
  ∀ ⦃β : Type⦄ ⦃g : Thread → Option β⦄ ⦃threads : List Thread⦄, ByPosition text g →
    AllOn text threads →
      (stepAll threads).findSome? g = threads.findSome? fun t => (stepAll [t]).findSome? g

theorem findSome?_congr {f : Thread → Option β} (h : ∀ t ∈ threads, f t = g t) :
    threads.findSome? f = threads.findSome? g := by
  induction threads with
  | nil => rfl
  | cons t rest ih =>
      obtain ⟨ht, hrest⟩ := List.forall_mem_cons.mp h
      rw [List.findSome?_cons, List.findSome?_cons, ht, ih hrest]

/-- A step that takes threads one by one keeps to their order. -/
theorem inOrder_of_append {stepAll : List Thread → List Thread} (hnil : stepAll [] = [])
    (hcons : ∀ t rest, stepAll (t :: rest) = stepAll [t] ++ stepAll rest) :
    InOrder text stepAll := by
  intro β g threads hg hthreads
  induction threads with
  | nil =>
      rw [hnil]
      rfl
  | cons t rest ih =>
      rw [hcons, List.findSome?_append, ih (List.forall_mem_cons.mp hthreads).2,
        List.findSome?_cons]
      cases (stepAll [t]).findSome? g <;> rfl

theorem inOrder_flatMap (step : Thread → List Thread) :
    InOrder text fun threads => threads.flatMap step :=
  inOrder_of_append rfl fun t rest => by simp

theorem inOrder_distinct {step : Thread → List Thread} {leads : Thread → Thread → Prop}
    (hmotion : Motion leads) (hstep : Computes text step leads) :
    InOrder text fun threads => distinct (threads.flatMap step) := by
  intro β g threads hg hthreads
  have hall := (hstep.flatMap hthreads).allOn hmotion hthreads
  dsimp only
  rw [findSome?_distinct hg hall, inOrder_flatMap step hg hthreads]
  refine findSome?_congr fun t ht => ?_
  have hone := (hstep t (hthreads t ht)).allOn hmotion (.singleton (hthreads t ht))
  simp only [List.flatMap_singleton]
  rw [findSome?_distinct hg hone]

/-- A step behind another one: the first thread that leads through both is the first that leads to
one from which the second step goes on. -/
theorem InOrder.comp {first second : List Thread → List Thread}
    {leads leads' : Thread → Thread → Prop} (hfirst : InOrder text first)
    (hsecond : InOrder text second) (hmotion : Motion leads) (hmotion' : Motion leads')
    (hfinds : ∀ threads, AllOn text threads → Finds leads threads (first threads))
    (hfinds' : ∀ threads, AllOn text threads → Finds leads' threads (second threads)) :
    InOrder text fun threads => second (first threads) := by
  intro β g threads hg hthreads
  have hbehind : ByPosition text fun t => (second [t]).findSome? g :=
    hg.behind hmotion' fun t ht => hfinds' [t] (.singleton ht)
  dsimp only
  rw [hsecond hg ((hfinds threads hthreads).allOn hmotion hthreads), hfirst hbehind hthreads]
  refine findSome?_congr fun t ht => ?_
  have hone : AllOn text [t] := .singleton (hthreads t ht)
  rw [hsecond hg ((hfinds [t] hone).allOn hmotion hone)]

theorem inOrder_times {stepAll : List Thread → List Thread} {leads : Thread → Thread → Prop}
    (hstep : InOrder text stepAll) (hmotion : Motion leads)
    (hfinds : ∀ threads, AllOn text threads → Finds leads threads (stepAll threads))
    (count : Nat) : InOrder text (times stepAll count) := by
  induction count with
  | zero =>
      intro β g threads _ _
      have hnone : ∀ threads : List Thread, times stepAll 0 threads = threads := by
        intro threads
        cases threads <;> rfl
      simp only [hnone, List.findSome?_singleton]
  | succ count ih =>
      intro β g threads hg hthreads
      cases threads with
      | nil => rfl
      | cons t rest =>
          exact hstep.comp ih hmotion (Rounds.motion hmotion count) hfinds
            (fun threads h => finds_times hmotion hfinds h count) hg hthreads

namespace Expr

variable {a b body : Expr}

theorem inOrder_repeated {low : Nat} {high : Option Nat} {greedy : Bool}
    (hbody : InOrder text (run body)) : InOrder text (run (repeated body low high greedy)) := by
  have hmotion := motion_steps body
  have hfinds : ∀ threads, AllOn text threads → Finds (Steps body) threads (run body threads) :=
    fun _ h => finds_run body h
  have hstep := @computes_steps text body
  have hmore : ∀ {more : Thread → List Thread} {allowed : Nat → Prop} (least : Nat),
      Computes text more (fun s t => ∃ count, allowed count ∧ Rounds (Steps body) count s t) →
        InOrder text fun threads => distinct ((times (run body) least threads).flatMap more) := by
    intro more allowed least hmore
    have hany := Rounds.motion_exists hmotion allowed
    exact (inOrder_times hbody hmotion hfinds least).comp (inOrder_distinct hany hmore)
      (Rounds.motion hmotion least) hany (fun _ h => finds_times hmotion hfinds h least)
      fun _ h => (hmore.flatMap h).distinct
  intro β g threads hg hthreads
  simp only [run]
  cases high with
  | some most =>
      dsimp only
      split
      next =>
        exact @inOrder_of_append text (fun _ => []) rfl (fun _ _ => rfl) β g threads hg hthreads
      next => exact hmore low (computes_upTo greedy hmotion hstep _) hg hthreads
  | none =>
      cases low with
      | zero =>
          refine inOrder_distinct (Rounds.motion_exists hmotion fun _ => True) ?_ hg hthreads
          intro t ht
          exact (computes_zeroOrMore greedy hmotion hstep t ht).congr fun s u => by simp
      | succ least => exact hmore least (computes_oneOrMore greedy hmotion hstep) hg hthreads

/-- Running a pattern keeps to the order of preference. -/
theorem inOrder_run (e : Expr) : InOrder text (run e) := by
  induction e with
  | empty => exact inOrder_of_append rfl fun t rest => rfl
  | anchor kind =>
      refine inOrder_of_append rfl fun t rest => ?_
      simp only [run]
      rw [← List.filter_append, List.singleton_append]
  | one set =>
      refine inOrder_of_append rfl fun t rest => ?_
      simp only [run]
      rw [← List.filterMap_append, List.singleton_append]
  | capture name body ih =>
      exact inOrder_distinct (motion_steps _) (computes_capture (computes_steps body))
  | cat a b iha ihb =>
      exact iha.comp ihb (motion_steps a) (motion_steps b) (fun _ h => finds_run a h)
        fun _ h => finds_run b h
  | alt a b iha ihb =>
      exact inOrder_distinct (motion_steps _) (computes_alt (computes_steps a) (computes_steps b))
  | repeated body low high greedy ih => exact inOrder_repeated ih

/-! ## The preferred way -/

variable {e : Expr} {s t u : Thread} {cursor : Cursor}

theorem findSome?_some (threads : List Thread) : threads.findSome? some = threads.head? := by
  cases threads <;> rfl

/-- The preferred way through a pattern leads from one thread to another. -/
def Prefers (e : Expr) (s t : Thread) : Prop := (run e [s]).head? = some t

/-- What a search answers is the preferred match at some position. -/
theorem prefers_of_search (h : e.search text = some t) :
    ∃ cursor : Cursor, cursor.On text ∧ Prefers e ⟨cursor, []⟩ t := by
  obtain ⟨cursor, hmem, hhead⟩ := List.exists_of_findSome?_eq_some h
  exact ⟨cursor, Cursor.mem_positions.mp hmem, hhead⟩

theorem Prefers.steps (h : Prefers e s t) (hs : s.cursor.On text) : Steps e s t :=
  steps_of_mem_run hs (List.mem_of_mem_head? h)

/-- The preferred way through two patterns goes by the first thread behind the one from which there
is a way through the other. -/
theorem Prefers.findSome? (h : Prefers (cat a b) s t) (hs : s.cursor.On text) :
    ((run a [s]).findSome? fun u => (run b [u]).head?) = some t := by
  have hall := (computes_steps a s hs).allOn (motion_steps a) (.singleton hs)
  have hsplit := inOrder_run b byPosition_some hall
  rw [findSome?_some] at hsplit
  simp only [findSome?_some] at hsplit
  exact hsplit.symm.trans h

theorem Prefers.split (h : Prefers (cat a b) s t) (hs : s.cursor.On text) :
    ∃ u, Steps a s u ∧ u.cursor.On text ∧ Prefers b u t := by
  obtain ⟨u, hu, hut⟩ := List.exists_of_findSome?_eq_some (h.findSome? hs)
  have hsteps := steps_of_mem_run hs hu
  exact ⟨u, hsteps, hsteps.on hs, hut⟩

/-! ## Few characters -/

theorem distinctFrom_sublist {seen : Marks} {threads : List Thread} :
    (distinctFrom seen threads).Sublist threads := by
  induction threads generalizing seen with
  | nil => exact .slnil
  | cons t rest ih =>
      unfold distinctFrom
      split
      · exact ih.cons t
      · exact ih.cons_cons t

/-- If a step leads to one thread at most, rounds that prefer few characters find threads further
and further behind. -/
theorem pairwise_rounds {step : Thread → List Thread} (hstep : ∀ t, (step t).length ≤ 1)
    {fuel : Nat} {threads : List Thread} {trail : Trail} (hthreads : threads.length ≤ 1)
    (hbehind : ∀ u ∈ threads, ∀ v ∈ trail.found, v.index < u.index)
    (hfound : trail.found.Pairwise fun u v => v.index < u.index) :
    (rounds step false fuel threads trail).found.Pairwise fun u v => v.index < u.index := by
  induction fuel generalizing threads trail with
  | zero =>
      match threads, hthreads with
      | [], _ => exact hfound
      | [t], _ =>
          change (if _ then _ else _ : Trail).found.Pairwise _
          split
          · exact hfound
          · exact hfound.cons (hbehind t List.mem_cons_self)
  | succ fuel ih =>
      match threads, hthreads with
      | [], _ => exact hfound
      | [t], _ =>
          change (if _ then _ else _ : Trail).found.Pairwise _
          split
          · exact hfound
          · refine ih ?_ ?_ (hfound.cons (hbehind t List.mem_cons_self))
            · exact Nat.le_trans (List.length_filter_le _ _) (hstep t)
            · intro u hu v hv
              have hmoved := of_decide_eq_true (List.mem_filter.mp hu).2
              rcases List.mem_cons.mp hv with rfl | hv
              · exact hmoved
              · exact Nat.lt_trans (hbehind t List.mem_cons_self v hv) hmoved

variable {set : CharSet}

theorem index_of_one (h : Steps (one set) s t) : t.index = s.index + 1 := by
  cases h with
  | one step =>
      obtain ⟨_, _, -, -, rfl⟩ := Thread.advance?_eq_some_iff.mp step
      rfl

/-- A repetition of a set that prefers few characters finds threads further and further behind. -/
theorem pairwise_run_lazy (hs : s.cursor.On text) :
    (run (repeated (one set) 0 none false) [s]).Pairwise fun u v => u.index < v.index := by
  have hlength : ∀ t, (run (one set) [t]).length ≤ 1 := by
    intro t
    exact List.length_filterMap_le _ _
  have hmore : (oneOrMore (fun t => run (one set) [t]) false s).Pairwise
      fun u v => u.index < v.index := by
    refine List.pairwise_reverse.mpr (pairwise_rounds ?_ (hlength s) nofun .nil)
    intro t
    dsimp only
    split
    · exact Nat.zero_le 1
    · exact hlength t
  have hbehind : ∀ u ∈ oneOrMore (fun t => run (one set) [t]) false s, s.index < u.index := by
    intro u hu
    obtain ⟨s', hs', count, hcount, hrounds⟩ :=
      (computes_oneOrMore false (motion_steps _) (computes_steps (one set)) s hs).sound u hu
    rw [List.mem_singleton.mp hs'] at hrounds
    cases hrounds with
    | none => cases hcount
    | more first rest =>
        have hle := (Rounds.motion (motion_steps (one set)) _).index_le rest
        rw [index_of_one first] at hle
        exact hle
  refine ((hmore.cons hbehind).sublist ?_)
  exact distinctFrom_sublist.trans (by
    rw [List.flatMap_singleton]
    exact distinctFrom_sublist)

theorem pairwise_run_capture {name : String}
    (hbody : (run body [s]).Pairwise fun u v => u.index < v.index) :
    (run (capture name body) [s]).Pairwise fun u v => u.index < v.index := by
  refine List.Pairwise.sublist distinctFrom_sublist ?_
  rw [List.flatMap_singleton]
  exact List.pairwise_map.mpr hbody

/-- If a pattern prefers what stands further in front, then of the ways through it and through what
follows it the one that leaves it furthest in front is preferred. -/
theorem Prefers.least (hs : s.cursor.On text)
    (hsorted : (run a [s]).Pairwise fun u v => u.index < v.index) (h : Prefers (cat a b) s t) :
    ∃ u, Steps a s u ∧ u.cursor.On text ∧ Prefers b u t ∧
      ∀ v w, Steps a s v → Steps b v w → u.index ≤ v.index := by
  obtain ⟨before, u, after, hsplit, hut, hbefore⟩ := List.findSome?_eq_some_iff.mp (h.findSome? hs)
  have hmem : ∀ v ∈ before ++ u :: after, Steps a s v := by
    rw [← hsplit]
    exact fun v hv => steps_of_mem_run hs hv
  have hsu := hmem u (List.mem_append_right _ List.mem_cons_self)
  refine ⟨u, hsu, hsu.on hs, hut, fun v w hsv hvw => ?_⟩
  obtain ⟨v', hv', hindex⟩ := (computes_steps a s hs).complete s List.mem_cons_self v hsv
  dsimp only at hv'
  rw [hsplit] at hv' hsorted
  rw [← hindex]
  rcases List.mem_append.mp hv' with hbefore' | hbehind
  · -- a thread further in front from which there is a way is one that the search would have taken
    have hon := (hmem v' hv').on hs
    obtain ⟨w', hw', -⟩ := uniform_steps b hvw (hon.eq_of_index (hsv.on hs) hindex)
    have hsome := isSome_head?_run hon hw'
    rw [hbefore v' hbefore'] at hsome
    cases hsome
  · rcases List.mem_cons.mp hbehind with rfl | hbehind
    · exact Nat.le_refl _
    · exact Nat.le_of_lt (List.rel_of_pairwise_cons (List.pairwise_append.mp hsorted).2.1 hbehind)

end Expr

end Waymark.Pattern
