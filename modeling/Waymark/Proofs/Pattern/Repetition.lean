import Waymark.Proofs.Pattern.Found

/-! # Repetition without a bound

The rounds of a repetition are followed from each position once, and a round that does not move
is not repeated. Nothing is missed: what can be reached from a marked position is marked as well,
and a thread was added for every mark.
-/

namespace Waymark.Pattern

open Pattern.Expr

variable {text : List Char} {leads : Thread → Thread → Prop} {step : Thread → List Thread}

/-- From a marked position at or behind a floor every step that moves ends at a marked position. -/
def Closed (text : List Char) (leads : Thread → Thread → Prop) (floor : Nat) (seen : Marks) :
    Prop :=
  ∀ s t, s.cursor.On text → leads s t → floor ≤ s.index → s.index < t.index →
    seen.contains s.index = true → seen.contains t.index = true

/-- What following some threads does to a trail. -/
structure Followed (text : List Char) (leads : Thread → Thread → Prop) (floor : Nat)
    (threads : List Thread) (before after : Trail) : Prop where
  reached : ∀ t ∈ threads, after.seen.contains t.index = true
  seen_mono : ∀ i, before.seen.contains i = true → after.seen.contains i = true
  found_mono : ∀ t ∈ before.found, t ∈ after.found
  seen_new : ∀ i, after.seen.contains i = true → before.seen.contains i = true ∨
    floor ≤ i ∧ Reached after.found i
  found_new : ∀ t ∈ after.found, t ∈ before.found ∨
    ∃ s ∈ threads, ∃ count, Rounds leads count s t
  closed : Closed text leads floor before.seen → Closed text leads floor after.seen

theorem Followed.nil (floor : Nat) (trail : Trail) :
    Followed text leads floor [] trail trail :=
  ⟨by simp, fun _ h => h, fun _ h => h, fun _ h => .inl h, fun _ h => .inl h, id⟩

theorem Followed.cons {floor : Nat} {t : Thread} {threads : List Thread}
    {before middle after : Trail} (hhead : Followed text leads floor [t] before middle)
    (htail : Followed text leads floor threads middle after) :
    Followed text leads floor (t :: threads) before after where
  reached := by
    intro u hu
    rcases List.mem_cons.mp hu with rfl | hu
    · exact htail.seen_mono _ (hhead.reached u List.mem_cons_self)
    · exact htail.reached u hu
  seen_mono i hi := htail.seen_mono i (hhead.seen_mono i hi)
  found_mono u hu := htail.found_mono u (hhead.found_mono u hu)
  seen_new := by
    intro i hi
    rcases htail.seen_new i hi with hi | hi
    · rcases hhead.seen_new i hi with hi | ⟨hfloor, hreached⟩
      · exact .inl hi
      · exact .inr ⟨hfloor, hreached.mono htail.found_mono⟩
    · exact .inr hi
  found_new := by
    intro u hu
    rcases htail.found_new u hu with hu | ⟨s, hs, hrounds⟩
    · rcases hhead.found_new u hu with hu | ⟨s, hs, hrounds⟩
      · exact .inl hu
      · exact .inr ⟨s, List.mem_cons.mpr (.inl (List.mem_singleton.mp hs)), hrounds⟩
    · exact .inr ⟨s, List.mem_cons_of_mem _ hs, hrounds⟩
  closed hclosed := htail.closed (hhead.closed hclosed)

/-- Following a thread whose position is marked already changes nothing. -/
theorem Followed.skip {floor : Nat} {t : Thread} {trail : Trail}
    (hseen : trail.seen.contains t.index = true) :
    Followed text leads floor [t] trail trail :=
  ⟨by simp [hseen], fun _ h => h, fun _ h => h, fun _ h => .inl h, fun _ h => .inl h, id⟩

/-- Marking a thread and following the threads behind it, with the thread itself added to the
found ones before or afterwards. Everything behind the thread that has not moved is dropped, so
what is followed lies strictly behind it and the marks below stay as they are. -/
theorem Followed.visit {floor : Nat} {t : Thread} {before inner after result : Trail}
    (hmotion : Motion leads) (hstep : Computes text step leads) (ht : t.cursor.On text)
    (hfloor : floor ≤ t.index)
    (hnext : Followed text leads (t.index + 1)
      ((step t).filter fun u => t.index < u.index) inner after)
    (hseen : inner.seen = before.seen.insert t.index) (hresult : result.seen = after.seen)
    (hbefore : ∀ u ∈ before.found, u ∈ inner.found)
    (hinner : ∀ u ∈ inner.found, u ∈ before.found ∨ u = t)
    (hafter : ∀ u ∈ after.found, u ∈ result.found)
    (hback : ∀ u ∈ result.found, u ∈ after.found ∨ u = t) (hadded : t ∈ result.found) :
    Followed text leads floor [t] before result where
  reached := by
    intro u hu
    rw [List.mem_singleton] at hu
    rw [hresult, hu]
    exact hnext.seen_mono _ (by simp [hseen])
  seen_mono := by
    intro i hi
    rw [hresult]
    exact hnext.seen_mono i (by simp [hseen, hi])
  found_mono u hu := hafter u (hnext.found_mono u (hbefore u hu))
  seen_new := by
    intro i hi
    rw [hresult] at hi
    rcases hnext.seen_new i hi with hi | ⟨hle, hreached⟩
    · simp only [hseen, Marks.contains_insert, Bool.or_eq_true, beq_iff_eq] at hi
      rcases hi with hi | rfl
      · exact .inl hi
      · exact .inr ⟨hfloor, t, hadded, rfl⟩
    · exact .inr ⟨by omega, hreached.mono hafter⟩
  found_new := by
    intro u hu
    rcases hback u hu with hu | rfl
    · rcases hnext.found_new u hu with hu | ⟨s, hs, count, hrounds⟩
      · rcases hinner u hu with hu | rfl
        · exact .inl hu
        · exact .inr ⟨u, List.mem_cons_self, 0, .none u⟩
      · obtain ⟨s', hs', hleads⟩ := (hstep t ht).sound s (List.mem_filter.mp hs |>.1)
        rw [List.mem_singleton] at hs'
        exact .inr ⟨t, List.mem_cons_self, count + 1, .more (hs' ▸ hleads) hrounds⟩
    · exact .inr ⟨u, List.mem_cons_self, 0, .none u⟩
  closed := by
    intro hclosed
    have habove : Closed text leads (t.index + 1) after.seen := by
      apply hnext.closed
      intro s u hs hsu hle hlt hmark
      simp only [hseen, Marks.contains_insert, Bool.or_eq_true, beq_iff_eq] at hmark ⊢
      rcases hmark with hmark | heq
      · exact .inl (hclosed s u hs hsu (by omega) hlt hmark)
      · omega
    intro s u hs hsu hle hlt hmark
    rw [hresult] at hmark ⊢
    rcases Nat.lt_trichotomy s.index t.index with hbelow | heq | hbehind
    · -- below the thread nothing was marked, so the mark is an old one
      rcases hnext.seen_new _ hmark with hmark | ⟨hle', -⟩
      · simp only [hseen, Marks.contains_insert, Bool.or_eq_true, beq_iff_eq] at hmark
        rcases hmark with hmark | heq
        · refine hnext.seen_mono _ ?_
          simp [hseen, hclosed s u hs hsu hle hlt hmark]
        · omega
      · omega
    · -- the thread itself: all that moves on from it has been followed
      obtain ⟨u', hleads, hcursor⟩ := hmotion.uniform hsu (ht.eq_of_index hs heq.symm)
      have hu' : u'.index = u.index := congrArg Cursor.index hcursor
      obtain ⟨v, hv, hindex⟩ := (hstep t ht).complete t List.mem_cons_self u' hleads
      have hmem : v ∈ (step t).filter fun u => t.index < u.index :=
        List.mem_filter.mpr ⟨hv, by simp only [decide_eq_true_eq]; omega⟩
      have hreached := hnext.reached v hmem
      rwa [hindex, hu'] at hreached
    · exact habove s u hs hsu hbehind hlt hmark

/-- Following threads with enough fuel for the text that is left. -/
theorem followed_rounds {greedy : Bool} (hmotion : Motion leads)
    (hstep : Computes text step leads) {fuel : Nat} {threads : List Thread} {trail : Trail}
    {floor : Nat} (hthreads : AllOn text threads) (hfloor : ∀ t ∈ threads, floor ≤ t.index)
    (hfuel : ∀ t ∈ threads, text.length < fuel + t.index) :
    Followed text leads floor threads trail (rounds step greedy fuel threads trail) := by
  induction fuel generalizing threads trail floor with
  | zero =>
      cases threads with
      | nil => exact .nil floor trail
      | cons t rest =>
          -- a thread on the text is never behind its end, so there is fuel left for it
          have hlength := (hthreads t List.mem_cons_self).index_add_length
          have hlt := hfuel t List.mem_cons_self
          simp only [Thread.index] at hlt
          omega
  | succ fuel ih =>
      induction threads generalizing trail with
      | nil => exact .nil floor trail
      | cons t rest ihrest =>
          have ht := hthreads t List.mem_cons_self
          have hfloor' := hfloor t List.mem_cons_self
          have hfuel' := hfuel t List.mem_cons_self
          have hnexton : AllOn text ((step t).filter fun u => t.index < u.index) := by
            intro u hu
            obtain ⟨s, hs, hleads⟩ := (hstep t ht).sound u (List.mem_filter.mp hu |>.1)
            rw [List.mem_singleton] at hs
            exact hmotion.on hleads (hs ▸ ht)
          have hnextle : ∀ u ∈ (step t).filter fun u => t.index < u.index,
              t.index + 1 ≤ u.index := by
            intro u hu
            exact of_decide_eq_true (List.mem_filter.mp hu).2
          have hnext := fun inner : Trail => @ih _ inner _ hnexton hnextle
            (fun u hu => by have := hnextle u hu; omega)
          refine .cons ?_ (ihrest (fun u hu => hthreads u (List.mem_cons_of_mem _ hu))
            (fun u hu => hfloor u (List.mem_cons_of_mem _ hu))
            (fun u hu => hfuel u (List.mem_cons_of_mem _ hu)))
          dsimp only
          by_cases hseen : trail.seen.contains t.index = true
          · rw [if_pos hseen]
            exact .skip hseen
          · rw [if_neg hseen]
            cases greedy with
            | true =>
                rw [if_pos rfl]
                exact .visit hmotion hstep ht hfloor' (hnext (trail.visit t)) rfl rfl
                  (fun u hu => hu) (fun u hu => .inl hu) (fun u hu => List.mem_cons_of_mem _ hu)
                  (fun u hu => (List.mem_cons.mp hu).symm) List.mem_cons_self
            | false =>
                rw [if_neg Bool.false_ne_true]
                have hfollowed := hnext ((trail.visit t).add t)
                exact .visit hmotion hstep ht hfloor' hfollowed rfl rfl
                  (fun u hu => List.mem_cons_of_mem _ hu) (fun u hu => (List.mem_cons.mp hu).symm)
                  (fun u hu => hu) (fun u hu => .inl hu) (hfollowed.found_mono t List.mem_cons_self)

/-- The relation of a step that is not taken at one index. -/
def AwayFrom (index : Nat) (leads : Thread → Thread → Prop) (s t : Thread) : Prop :=
  s.index ≠ index ∧ leads s t

theorem motion_awayFrom (hmotion : Motion leads) (index : Nat) : Motion (AwayFrom index leads) where
  uniform := by
    rintro s t s' ⟨hne, hst⟩ hcursor
    obtain ⟨t', hst', ht'⟩ := hmotion.uniform hst hcursor
    refine ⟨t', ⟨?_, hst'⟩, ht'⟩
    rwa [show s'.index = s.index from congrArg Cursor.index hcursor]
  on _ _ _ h hs := hmotion.on h.2 hs
  index_le _ _ h := hmotion.index_le h.2

theorem computes_awayFrom (hstep : Computes text step leads) (index : Nat) :
    Computes text (fun u => if u.index = index then [] else step u) (AwayFrom index leads) := by
  intro t ht
  dsimp only
  split
  next heq =>
    refine ⟨by simp, ?_⟩
    rintro s hs u ⟨hne, -⟩
    rw [List.mem_singleton.mp hs] at hne
    exact absurd heq hne
  next hne =>
    obtain ⟨hsound, hcomplete⟩ := hstep t ht
    refine ⟨fun u hu => ?_, fun s hs u hsu => hcomplete s hs u hsu.2⟩
    obtain ⟨s, hs, hsu⟩ := hsound u hu
    exact ⟨s, hs, by rwa [List.mem_singleton.mp hs], hsu⟩

/-- Marks that hold what one step from a thread leads to, and that are closed elsewhere, hold all
positions that rounds lead to from a marked one behind the thread. -/
theorem marked_of_rounds {t s u : Thread} {seen : Marks} {count : Nat} (hmotion : Motion leads)
    (hentered : Finds leads [t] (step t)) (ht : t.cursor.On text)
    (hreached : ∀ w ∈ step t, seen.contains w.index = true)
    (hclosed : Closed text (AwayFrom t.index leads) 0 seen) (h : Rounds leads count s u)
    (hs : s.cursor.On text) (hle : t.index ≤ s.index) (hmark : seen.contains s.index = true) :
    seen.contains u.index = true := by
  induction h with
  | none => exact hmark
  | @more count s v u first _ ih =>
      have hle' := hmotion.index_le first
      refine ih (hmotion.on first hs) (Nat.le_trans hle hle') ?_
      rcases Nat.eq_or_lt_of_le hle' with heq | hlt
      · rwa [← heq]
      · by_cases hst : s.index = t.index
        · -- back at the thread itself: its step was found, up to groups
          obtain ⟨v', hv', hcursor⟩ := hmotion.uniform first (ht.eq_of_index hs hst.symm)
          obtain ⟨w, hw, hindex⟩ := hentered.complete t List.mem_cons_self v' hv'
          have hmark' := hreached w hw
          rwa [hindex, show v'.index = v.index from congrArg Cursor.index hcursor] at hmark'
        · exact hclosed s v hs ⟨hst, first⟩ (Nat.zero_le _) hlt hmark

theorem computes_oneOrMore (greedy : Bool) (hmotion : Motion leads)
    (hstep : Computes text step leads) :
    Computes text (oneOrMore step greedy) fun s t =>
      ∃ count, 1 ≤ count ∧ Rounds leads count s t := by
  intro t ht
  have hentered := hstep t ht
  have hstepon := hentered.allOn hmotion (.singleton ht)
  have hbehind : ∀ u ∈ step t, t.index ≤ u.index := by
    intro u hu
    obtain ⟨s, hs, hsu⟩ := hentered.sound u hu
    rw [List.mem_singleton.mp hs] at hsu
    exact hmotion.index_le hsu
  have hlength := ht.index_add_length
  have hfollowed : Followed text (AwayFrom t.index leads) 0 (step t) .empty
      (rounds (fun u => if u.index = t.index then [] else step u) greedy
        (t.cursor.rest.length + 1) (step t) .empty) := by
    apply followed_rounds (motion_awayFrom hmotion _) (computes_awayFrom hstep _) hstepon
    · exact fun u _ => Nat.zero_le _
    · intro u hu
      have hle := hbehind u hu
      simp only [Thread.index] at hle ⊢
      omega
  have hclosed := hfollowed.closed fun _ _ _ _ _ _ hmark => by simp [Trail.empty] at hmark
  constructor
  · intro u hu
    rw [oneOrMore, List.mem_reverse] at hu
    rcases hfollowed.found_new u hu with hu | ⟨s, hs, count, hrounds⟩
    · simp [Trail.empty] at hu
    · obtain ⟨s', hs', hleads⟩ := hentered.sound s hs
      exact ⟨s', hs', count + 1, by omega, .more hleads (hrounds.mono fun _ _ h => h.2)⟩
  · rintro s hs u ⟨count, hpos, hrounds⟩
    rw [List.mem_singleton.mp hs] at hrounds
    cases hrounds with
    | none => omega
    | more first rest =>
        obtain ⟨v, hv, hindex⟩ := hentered.complete t List.mem_cons_self _ first
        have hfirst := hfollowed.reached v hv
        rw [hindex] at hfirst
        have hlast := marked_of_rounds hmotion hentered ht hfollowed.reached hclosed rest
          (hmotion.on first ht) (hmotion.index_le first) hfirst
        rcases hfollowed.seen_new _ hlast with hmark | ⟨-, hreached⟩
        · simp [Trail.empty] at hmark
        · exact hreached.mono fun w hw => List.mem_reverse.mpr hw

theorem computes_zeroOrMore (greedy : Bool) (hmotion : Motion leads)
    (hstep : Computes text step leads) :
    Computes text (zeroOrMore step greedy) fun s t => ∃ count, Rounds leads count s t := by
  intro t ht
  obtain ⟨hsound, hcomplete⟩ := computes_oneOrMore greedy hmotion hstep t ht
  have hany : ∀ found : List Thread,
      (∀ u, u ∈ found ↔ u ∈ oneOrMore step greedy t ∨ u = t) →
      Finds (fun s u => ∃ count, Rounds leads count s u) [t] found := by
    intro found hmem
    constructor
    · intro u hu
      rcases (hmem u).mp hu with hu | rfl
      · obtain ⟨s, hs, count, -, hrounds⟩ := hsound u hu
        exact ⟨s, hs, count, hrounds⟩
      · exact ⟨u, List.mem_cons_self, 0, .none u⟩
    · rintro s hs u ⟨count, hrounds⟩
      cases count with
      | zero =>
          cases hrounds
          exact ⟨t, (hmem t).mpr (.inr rfl), by rw [List.mem_singleton.mp hs]⟩
      | succ count =>
          refine (hcomplete s hs u ⟨count + 1, by omega, hrounds⟩).mono ?_
          exact fun v hv => (hmem v).mpr (.inl hv)
  unfold zeroOrMore
  split
  · exact (hany _ fun u => by simp).distinct
  · exact (hany _ fun u => by simp [or_comm]).distinct

end Waymark.Pattern
