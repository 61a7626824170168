import Waymark.Pattern.Search
import Waymark.Proofs.Pattern.Positions

/-! # Found threads

The search keeps one thread for each position, and which one that is does not enter. So it is
held against a relation in two halves: what is found is what the relation leads to, and wherever
the relation leads a thread is found.
-/

namespace Waymark.Pattern

open Pattern.Expr

/-- All threads stand in one text. -/
def AllOn (text : List Char) (threads : List Thread) : Prop :=
  ∀ t ∈ threads, t.cursor.On text

theorem AllOn.singleton {text : List Char} {t : Thread} (h : t.cursor.On text) :
    AllOn text [t] := by
  intro s hs
  rwa [List.mem_singleton.mp hs]

/-- Some thread stands at an index. -/
def Reached (threads : List Thread) (index : Nat) : Prop := ∃ t ∈ threads, t.index = index

theorem Reached.mono {threads more : List Thread} {index : Nat} (h : Reached threads index)
    (hsub : ∀ t ∈ threads, t ∈ more) : Reached more index := by
  obtain ⟨t, hmem, hindex⟩ := h
  exact ⟨t, hsub t hmem, hindex⟩

/-- The found threads are some of those that a relation leads to from the origins, and they
stand wherever it leads. -/
structure Finds (leads : Thread → Thread → Prop) (origins found : List Thread) : Prop where
  sound : ∀ t ∈ found, ∃ s ∈ origins, leads s t
  complete : ∀ s ∈ origins, ∀ t, leads s t → Reached found t.index

/-- A function finds what a relation leads to from any thread of a text. -/
def Computes (text : List Char) (step : Thread → List Thread)
    (leads : Thread → Thread → Prop) : Prop :=
  ∀ t, t.cursor.On text → Finds leads [t] (step t)

variable {text : List Char} {leads leads' : Thread → Thread → Prop}
  {step : Thread → List Thread} {origins middle found : List Thread}

theorem mem_of_mem_distinctFrom {seen : Marks} {t : Thread} {threads : List Thread}
    (h : t ∈ distinctFrom seen threads) : t ∈ threads := by
  induction threads generalizing seen with
  | nil => simp [distinctFrom] at h
  | cons s rest ih =>
      unfold distinctFrom at h
      split at h
      · exact List.mem_cons_of_mem _ (ih h)
      · rcases List.mem_cons.mp h with rfl | h
        · exact List.mem_cons_self
        · exact List.mem_cons_of_mem _ (ih h)

theorem reached_distinctFrom {seen : Marks} {t : Thread} {threads : List Thread}
    (h : t ∈ threads) (hseen : seen.contains t.index = false) :
    Reached (distinctFrom seen threads) t.index := by
  induction threads generalizing seen with
  | nil => cases h
  | cons s rest ih =>
      unfold distinctFrom
      rcases List.mem_cons.mp h with rfl | h
      · rw [if_neg (by simp [hseen])]
        exact ⟨t, List.mem_cons_self, rfl⟩
      · split
        · exact ih h hseen
        · by_cases heq : s.index = t.index
          · -- the first thread at an index stands for all of them
            exact ⟨s, List.mem_cons_self, heq⟩
          · refine (ih h ?_).mono fun u hu => List.mem_cons_of_mem _ hu
            simp [hseen, heq]

theorem Finds.distinct (h : Finds leads origins found) :
    Finds leads origins (distinct found) := by
  refine ⟨fun t ht => h.sound t (mem_of_mem_distinctFrom ht), ?_⟩
  intro s hs t ht
  obtain ⟨u, hu, hindex⟩ := h.complete s hs t ht
  rw [← hindex]
  exact reached_distinctFrom hu (Marks.contains_empty _)

theorem Finds.congr (h : Finds leads origins found) (hiff : ∀ s t, leads s t ↔ leads' s t) :
    Finds leads' origins found := by
  refine ⟨fun t ht => ?_, fun s hs t ht => h.complete s hs t ((hiff s t).mpr ht)⟩
  obtain ⟨s, hs, hst⟩ := h.sound t ht
  exact ⟨s, hs, (hiff s t).mp hst⟩

theorem Finds.allOn (h : Finds leads origins found) (hmotion : Motion leads)
    (horigins : AllOn text origins) : AllOn text found := by
  intro t ht
  obtain ⟨s, hs, hst⟩ := h.sound t ht
  exact hmotion.on hst (horigins s hs)

/-- Finding one thing behind another finds what the two relations lead to in turn. -/
theorem Finds.andThen (hfirst : Finds leads origins middle)
    (hsecond : Finds leads' middle found) (hmotion : Motion leads) (hmotion' : Motion leads')
    (horigins : AllOn text origins) :
    Finds (fun s u => ∃ t, leads s t ∧ leads' t u) origins found := by
  constructor
  · intro u hu
    obtain ⟨t, ht, htu⟩ := hsecond.sound u hu
    obtain ⟨s, hs, hst⟩ := hfirst.sound t ht
    exact ⟨s, hs, t, hst, htu⟩
  · rintro s hs u ⟨t, hst, htu⟩
    obtain ⟨t', ht', hindex⟩ := hfirst.complete s hs t hst
    -- the thread kept at this position may carry other groups than `t`
    have hcursor : t'.cursor = t.cursor :=
      (hfirst.allOn hmotion horigins t' ht').eq_of_index
        (hmotion.on hst (horigins s hs)) hindex
    obtain ⟨u', htu', hu'⟩ := hmotion'.uniform htu hcursor
    have hreached := hsecond.complete t' ht' u' htu'
    rwa [show u'.index = u.index from congrArg Cursor.index hu'] at hreached

theorem Computes.flatMap (h : Computes text step leads) (horigins : AllOn text origins) :
    Finds leads origins (origins.flatMap step) := by
  constructor
  · intro t ht
    obtain ⟨s, hs, hst⟩ := List.mem_flatMap.mp ht
    obtain ⟨s', hs', hleads⟩ := (h s (horigins s hs)).sound t hst
    rw [List.mem_singleton] at hs'
    exact ⟨s, hs, hs' ▸ hleads⟩
  · intro s hs t hst
    have hreached := (h s (horigins s hs)).complete s List.mem_cons_self t hst
    exact hreached.mono fun u hu => List.mem_flatMap.mpr ⟨s, hs, hu⟩

theorem Finds.nil (leads : Thread → Thread → Prop) : Finds leads [] [] :=
  ⟨by simp, by simp⟩

/-- Running a step a fixed number of times finds what as many rounds lead to. -/
theorem finds_times {stepAll : List Thread → List Thread} (hmotion : Motion leads)
    (hstep : ∀ threads, AllOn text threads → Finds leads threads (stepAll threads))
    (horigins : AllOn text origins) (count : Nat) :
    Finds (Rounds leads count) origins (times stepAll count origins) := by
  induction count generalizing origins with
  | zero =>
      have htimes : times stepAll 0 origins = origins := by cases origins <;> rfl
      rw [htimes]
      refine ⟨fun t ht => ⟨t, ht, .none t⟩, ?_⟩
      intro s hs t ht
      cases ht
      exact ⟨s, hs, rfl⟩
  | succ count ih =>
      cases origins with
      | nil => exact .nil _
      | cons head tail =>
          have hfirst := hstep _ horigins
          have hrest := ih (hfirst.allOn hmotion horigins)
          refine (hfirst.andThen hrest hmotion (Rounds.motion hmotion count) horigins).congr ?_
          intro s u
          constructor
          · rintro ⟨t, hst, htu⟩
            exact .more hst htu
          · intro h
            cases h with
            | more hst htu => exact ⟨_, hst, htu⟩

end Waymark.Pattern
