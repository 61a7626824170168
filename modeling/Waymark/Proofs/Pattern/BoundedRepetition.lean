import Waymark.Proofs.Pattern.Found

/-! # Repetition with a bound

With at most so many rounds left a position is tried once for each number of rounds. The marks
of each number close over those of the next smaller one.
-/

namespace Waymark.Pattern

open Pattern.Expr

variable {text : List Char} {leads : Thread → Thread → Prop} {step : Thread → List Thread}

namespace BoundedTrail

/-- The trail for one round less. -/
def below (trail : BoundedTrail) : BoundedTrail := ⟨trail.seen.tail, trail.found⟩

/-- A position has been followed with a number of rounds left. With none left it must have been
found. -/
def Covers : (budget : Nat) → BoundedTrail → Nat → Prop
  | 0, trail, index => Reached trail.found index
  | _ + 1, trail, index => trail.here.contains index = true

/-- Whatever is marked has been followed: it is found itself, and one round further everything is
covered with one round less. -/
def Full (text : List Char) (leads : Thread → Thread → Prop) : (budget : Nat) → BoundedTrail → Prop
  | 0, _ => True
  | budget + 1, trail =>
      (∀ s : Thread, s.cursor.On text → trail.here.contains s.index = true →
        Reached trail.found s.index ∧ ∀ t, leads s t → trail.below.Covers budget t.index) ∧
      trail.below.Full text leads budget

variable {trail more : BoundedTrail} {budget index : Nat}

theorem Covers.mono (h : trail.Covers budget index) (hseen : more.seen = trail.seen)
    (hfound : ∀ t ∈ trail.found, t ∈ more.found) : more.Covers budget index := by
  cases budget with
  | zero => exact Reached.mono h hfound
  | succ budget => simpa only [Covers, here, hseen] using h

theorem Full.mono (h : trail.Full text leads budget) (hseen : more.seen = trail.seen)
    (hfound : ∀ t ∈ trail.found, t ∈ more.found) : more.Full text leads budget := by
  induction budget generalizing trail more with
  | zero => trivial
  | succ budget ih =>
      have hbelow : more.below.seen = trail.below.seen := congrArg List.tail hseen
      refine ⟨fun s hs hmark => ?_, ih h.2 hbelow hfound⟩
      rw [here, hseen] at hmark
      obtain ⟨hreached, hcovers⟩ := h.1 s hs hmark
      exact ⟨hreached.mono hfound, fun t hst => (hcovers t hst).mono hbelow hfound⟩

theorem full_empty (budget : Nat) (found : List Thread) :
    Full text leads budget ⟨[], found⟩ := by
  induction budget with
  | zero => trivial
  | succ budget ih => exact ⟨fun s _ hmark => by simp [here] at hmark, ih⟩

/-- From a covered position everything within the budget is found. -/
theorem Full.reached {s t : Thread} {count : Nat} (h : trail.Full text leads budget)
    (hmotion : Motion leads) (hs : s.cursor.On text) (hcovers : trail.Covers budget s.index)
    (hle : count ≤ budget) (hrounds : Rounds leads count s t) : Reached trail.found t.index := by
  induction budget generalizing trail s count with
  | zero =>
      obtain rfl : count = 0 := by omega
      cases hrounds
      exact hcovers
  | succ budget ih =>
      obtain ⟨hreached, hnext⟩ := h.1 s hs hcovers
      cases hrounds with
      | none => exact hreached
      | more first rest =>
          have hrest := ih h.2 (hmotion.on first hs) (hnext _ first) (by omega) rest
          exact hrest

end BoundedTrail

/-- What following some threads with a budget does to a trail. -/
structure FollowedWithin (text : List Char) (leads : Thread → Thread → Prop) (budget : Nat)
    (threads : List Thread) (before after : BoundedTrail) : Prop where
  covers : ∀ t ∈ threads, after.Covers budget t.index
  covers_mono : ∀ i, before.Covers budget i → after.Covers budget i
  found_mono : ∀ t ∈ before.found, t ∈ after.found
  found_new : ∀ t ∈ after.found, t ∈ before.found ∨
    ∃ s ∈ threads, ∃ count ≤ budget, Rounds leads count s t
  full : before.Full text leads budget → after.Full text leads budget

theorem FollowedWithin.nil (budget : Nat) (trail : BoundedTrail) :
    FollowedWithin text leads budget [] trail trail :=
  ⟨by simp, fun _ h => h, fun _ h => h, fun _ h => .inl h, id⟩

theorem FollowedWithin.cons {budget : Nat} {t : Thread} {threads : List Thread}
    {before middle after : BoundedTrail}
    (hhead : FollowedWithin text leads budget [t] before middle)
    (htail : FollowedWithin text leads budget threads middle after) :
    FollowedWithin text leads budget (t :: threads) before after where
  covers := by
    intro u hu
    rcases List.mem_cons.mp hu with rfl | hu
    · exact htail.covers_mono _ (hhead.covers u List.mem_cons_self)
    · exact htail.covers u hu
  covers_mono i hi := htail.covers_mono i (hhead.covers_mono i hi)
  found_mono u hu := htail.found_mono u (hhead.found_mono u hu)
  found_new := by
    intro u hu
    rcases htail.found_new u hu with hu | ⟨s, hs, hrounds⟩
    · rcases hhead.found_new u hu with hu | ⟨s, hs, hrounds⟩
      · exact .inl hu
      · exact .inr ⟨s, List.mem_cons.mpr (.inl (List.mem_singleton.mp hs)), hrounds⟩
    · exact .inr ⟨s, List.mem_cons_of_mem _ hs, hrounds⟩
  full hfull := htail.full (hhead.full hfull)

/-- Adding a thread when no round is left. -/
theorem FollowedWithin.add (t : Thread) (trail : BoundedTrail) :
    FollowedWithin text leads 0 [t] trail (trail.add t) where
  covers u hu := ⟨u, by rw [List.mem_singleton.mp hu]; exact List.mem_cons_self, rfl⟩
  covers_mono _ hi := Reached.mono hi fun _ hu => List.mem_cons_of_mem _ hu
  found_mono _ hu := List.mem_cons_of_mem _ hu
  found_new := by
    intro u hu
    rcases List.mem_cons.mp hu with rfl | hu
    · exact .inr ⟨u, List.mem_cons_self, 0, Nat.le_refl _, .none u⟩
    · exact .inl hu
  full _ := trivial

/-- Following a thread one round further and then marking it, with the thread itself added to
the found ones before or afterwards. -/
theorem FollowedWithin.visit {budget : Nat} {t : Thread}
    {before inner after result : BoundedTrail} (hmotion : Motion leads)
    (hstep : Computes text step leads) (ht : t.cursor.On text)
    (hnext : FollowedWithin text leads budget (step t) inner after)
    (hseen : inner.seen = before.below.seen)
    (hresult : result.seen = before.here.insert t.index :: after.seen)
    (hbefore : ∀ u ∈ before.found, u ∈ inner.found)
    (hinner : ∀ u ∈ inner.found, u ∈ before.found ∨ u = t)
    (hafter : ∀ u ∈ after.found, u ∈ result.found)
    (hback : ∀ u ∈ result.found, u ∈ after.found ∨ u = t) (hadded : t ∈ result.found) :
    FollowedWithin text leads (budget + 1) [t] before result := by
  have hhere : result.here = before.here.insert t.index := by
    simp only [BoundedTrail.here, hresult, List.headD_cons]
  have hbelow : result.below.seen = after.seen := by
    simp only [BoundedTrail.below, hresult, List.tail_cons]
  have hfound : ∀ u ∈ before.found, u ∈ result.found :=
    fun u hu => hafter u (hnext.found_mono u (hbefore u hu))
  have hcovers : ∀ u ∈ step t, result.below.Covers budget u.index :=
    fun u hu => (hnext.covers u hu).mono hbelow hafter
  constructor
  · intro u hu
    rw [List.mem_singleton.mp hu]
    simp [BoundedTrail.Covers, hhere]
  · intro i hi
    simp only [BoundedTrail.Covers] at hi
    simp [BoundedTrail.Covers, hhere, hi]
  · exact hfound
  · intro u hu
    rcases hback u hu with hu | rfl
    · rcases hnext.found_new u hu with hu | ⟨s, hs, count, hle, hrounds⟩
      · rcases hinner u hu with hu | rfl
        · exact .inl hu
        · exact .inr ⟨u, List.mem_cons_self, 0, Nat.zero_le _, .none u⟩
      · obtain ⟨s', hs', hleads⟩ := (hstep t ht).sound s hs
        rw [List.mem_singleton.mp hs'] at hleads
        exact .inr ⟨t, List.mem_cons_self, count + 1, by omega, .more hleads hrounds⟩
    · exact .inr ⟨u, List.mem_cons_self, 0, Nat.zero_le _, .none u⟩
  · intro hfull
    have hinnerfull : inner.Full text leads budget := hfull.2.mono hseen hbefore
    refine ⟨?_, (hnext.full hinnerfull).mono hbelow hafter⟩
    intro s hs hmark
    rw [hhere, Marks.contains_insert, Bool.or_eq_true, beq_iff_eq] at hmark
    rcases hmark with hmark | heq
    · -- an old mark: what it covered one round further is still covered
      obtain ⟨hreached, hcovered⟩ := hfull.1 s hs hmark
      refine ⟨hreached.mono hfound, fun u hsu => ?_⟩
      exact (hnext.covers_mono _ ((hcovered u hsu).mono hseen hbefore)).mono hbelow hafter
    · -- the new mark: the threads of the step have just been followed
      refine ⟨⟨t, hadded, heq⟩, fun u hsu => ?_⟩
      obtain ⟨u', hleads, hcursor⟩ := hmotion.uniform hsu (ht.eq_of_index hs heq)
      obtain ⟨v, hv, hindex⟩ := (hstep t ht).complete t List.mem_cons_self u' hleads
      have hcovered := hcovers v hv
      rwa [hindex, show u'.index = u.index from congrArg Cursor.index hcursor] at hcovered

theorem followed_atMost {greedy : Bool} (hmotion : Motion leads)
    (hstep : Computes text step leads) {budget : Nat} {threads : List Thread}
    {trail : BoundedTrail} (hthreads : AllOn text threads) :
    FollowedWithin text leads budget threads trail (atMost step greedy budget threads trail) := by
  induction budget generalizing threads trail with
  | zero =>
      induction threads generalizing trail with
      | nil => exact .nil 0 trail
      | cons t rest ihrest =>
          exact .cons (.add t trail) (ihrest fun u hu => hthreads u (List.mem_cons_of_mem _ hu))
  | succ budget ih =>
      induction threads generalizing trail with
      | nil => exact .nil (budget + 1) trail
      | cons t rest ihrest =>
          have ht := hthreads t List.mem_cons_self
          have hon : AllOn text (step t) := by
            refine (hstep t ht).allOn hmotion fun s hs => ?_
            rwa [List.mem_singleton.mp hs]
          refine .cons ?_ (ihrest fun u hu => hthreads u (List.mem_cons_of_mem _ hu))
          dsimp only
          by_cases hseen : trail.here.contains t.index = true
          · rw [if_pos hseen]
            refine ⟨fun u hu => ?_, fun _ h => h, fun _ h => h, fun _ h => .inl h, id⟩
            rw [List.mem_singleton.mp hu]
            exact hseen
          · rw [if_neg hseen]
            cases greedy with
            | true =>
                rw [if_pos rfl]
                exact .visit hmotion hstep ht (@ih _ trail.below hon) rfl rfl (fun u hu => hu)
                  (fun u hu => .inl hu) (fun u hu => List.mem_cons_of_mem _ hu)
                  (fun u hu => (List.mem_cons.mp hu).symm) List.mem_cons_self
            | false =>
                rw [if_neg Bool.false_ne_true]
                have hfollowed := @ih _ (trail.below.add t) hon
                exact .visit hmotion hstep ht hfollowed rfl rfl
                  (fun u hu => List.mem_cons_of_mem _ hu) (fun u hu => (List.mem_cons.mp hu).symm)
                  (fun u hu => hu) (fun u hu => .inl hu) (hfollowed.found_mono t List.mem_cons_self)

theorem computes_upTo (greedy : Bool) (hmotion : Motion leads)
    (hstep : Computes text step leads) (budget : Nat) :
    Computes text (upTo step greedy budget) fun s t =>
      ∃ count ≤ budget, Rounds leads count s t := by
  intro t ht
  have hfollowed : FollowedWithin text leads budget [t] ⟨[], []⟩
      (atMost step greedy budget [t] ⟨[], []⟩) :=
    followed_atMost hmotion hstep (.singleton ht)
  constructor
  · intro u hu
    rw [upTo, List.mem_reverse] at hu
    rcases hfollowed.found_new u hu with hu | hrounds
    · simp at hu
    · exact hrounds
  · rintro s hs u ⟨count, hle, hrounds⟩
    rw [List.mem_singleton.mp hs] at hrounds
    have hreached := (hfollowed.full (BoundedTrail.full_empty budget [])).reached hmotion ht
      (hfollowed.covers t List.mem_cons_self) hle hrounds
    exact hreached.mono fun v hv => List.mem_reverse.mpr hv

end Waymark.Pattern
