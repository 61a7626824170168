import Waymark.Load

/-! # The order of pages

Pages are sorted by the length of their URLs, and pages whose URLs have the same length stay in
the order in which they were listed. There is one order of this kind only, and it makes no
difference whether pages are left out before or after sorting.
-/

namespace Waymark.Plan

theorem longer_trans (p q r : PageRoute) (hpq : decide (q.url.utf8ByteSize ≤ p.url.utf8ByteSize))
    (hqr : decide (r.url.utf8ByteSize ≤ q.url.utf8ByteSize)) :
    decide (r.url.utf8ByteSize ≤ p.url.utf8ByteSize) := by
  simp only [decide_eq_true_eq] at *
  exact Nat.le_trans hqr hpq

theorem longer_total (p q : PageRoute) : decide (q.url.utf8ByteSize ≤ p.url.utf8ByteSize) ||
    decide (p.url.utf8ByteSize ≤ q.url.utf8ByteSize) := by
  simp only [Bool.or_eq_true, decide_eq_true_eq]
  exact Nat.le_total _ _

theorem pairwise_sortPages (pages : List PageRoute) :
    (sortPages pages).Pairwise fun p q => q.url.utf8ByteSize ≤ p.url.utf8ByteSize :=
  (List.pairwise_mergeSort longer_trans longer_total pages).imp of_decide_eq_true

/-- Where a page comes to stand among others: behind the ones with longer URLs, before the rest. -/
theorem sortPages_cons (p : PageRoute) (pages : List PageRoute) :
    ∃ before after, sortPages (p :: pages) = before ++ p :: after ∧
      sortPages pages = before ++ after ∧
      (∀ q ∈ before, p.url.utf8ByteSize < q.url.utf8ByteSize) ∧
      ∀ q ∈ after, q.url.utf8ByteSize ≤ p.url.utf8ByteSize := by
  obtain ⟨before, after, hsort, hrest, hbefore⟩ :=
    List.mergeSort_cons longer_trans longer_total p pages
  refine ⟨before, after, hsort, hrest, ?_, ?_⟩
  · intro q hq
    simpa using hbefore q hq
  · have hsorted := pairwise_sortPages (p :: pages)
    rw [sortPages, hsort] at hsorted
    exact fun q hq => List.rel_of_pairwise_cons (List.pairwise_append.mp hsorted).2.1 hq

/-- A list of pages is cut in only one way into those with longer URLs than a page and the rest. -/
theorem filter_longer {p : PageRoute} {before after : List PageRoute}
    (hbefore : ∀ q ∈ before, p.url.utf8ByteSize < q.url.utf8ByteSize)
    (hafter : ∀ q ∈ after, q.url.utf8ByteSize ≤ p.url.utf8ByteSize) :
    (before ++ after).filter (fun q => p.url.utf8ByteSize < q.url.utf8ByteSize) = before := by
  rw [List.filter_append, List.filter_eq_self.mpr, List.filter_eq_nil_iff.mpr, List.append_nil]
  · intro q hq
    simpa using hafter q hq
  · intro q hq
    simpa using hbefore q hq

theorem filter_sortPages (keep : PageRoute → Bool) (pages : List PageRoute) :
    (sortPages pages).filter keep = sortPages (pages.filter keep) := by
  induction pages with
  | nil => simp [sortPages]
  | cons p pages ih =>
      obtain ⟨before, after, hsort, hrest, hbefore, hafter⟩ := sortPages_cons p pages
      rw [hrest, List.filter_append] at ih
      rw [hsort, List.filter_append]
      by_cases hkeep : keep p = true
      · obtain ⟨before', after', hsort', hrest', hbefore', hafter'⟩ :=
          sortPages_cons p (pages.filter keep)
        rw [List.filter_cons_of_pos hkeep, List.filter_cons_of_pos hkeep, hsort']
        rw [hrest'] at ih
        -- the page is put in at the same place of the same list
        have hplace : before.filter keep = before' := by
          rw [← filter_longer hbefore' hafter', ← ih]
          refine (filter_longer ?_ ?_).symm
          · exact fun q hq => hbefore q (List.mem_filter.mp hq).1
          · exact fun q hq => hafter q (List.mem_filter.mp hq).1
        rw [hplace] at ih ⊢
        rw [List.append_cancel_left ih]
      · rw [List.filter_cons_of_neg hkeep, List.filter_cons_of_neg hkeep, ih]

/-! ## The only order -/

/-- Some pages in the order in which they are tried: the ones with longer URLs stand in front, by
the number of bytes, and those with URLs of the same length stand as they were listed. -/
structure IsPageOrder (pages sorted : List PageRoute) : Prop where
  perm : sorted.Perm pages
  longerFirst : sorted.Pairwise fun p q => q.url.utf8ByteSize ≤ p.url.utf8ByteSize
  stable : ∀ p ∈ pages, sorted.filter (fun q => q.url.utf8ByteSize = p.url.utf8ByteSize) =
    pages.filter fun q => q.url.utf8ByteSize = p.url.utf8ByteSize

theorem isPageOrder_sortPages (pages : List PageRoute) : IsPageOrder pages (sortPages pages) := by
  refine ⟨List.mergeSort_perm _ _, pairwise_sortPages pages, fun p _ => ?_⟩
  rw [filter_sortPages]
  -- among URLs of one length there is nothing to sort
  refine List.mergeSort_of_pairwise (List.pairwise_of_forall_mem_list fun q hq r hr => ?_)
  have hqlength := of_decide_eq_true (List.mem_filter.mp hq).2
  have hrlength := of_decide_eq_true (List.mem_filter.mp hr).2
  rw [hqlength, hrlength]
  exact decide_eq_true (Nat.le_refl _)

theorem IsPageOrder.filter_eq {pages sorted : List PageRoute} (h : IsPageOrder pages sorted)
    (length : Nat) : sorted.filter (fun q => q.url.utf8ByteSize = length) =
      pages.filter fun q => q.url.utf8ByteSize = length := by
  by_cases hsome : ∃ p ∈ pages, p.url.utf8ByteSize = length
  · obtain ⟨p, hp, rfl⟩ := hsome
    exact h.stable p hp
  · have hnone : ∀ p ∈ pages, ¬ decide (p.url.utf8ByteSize = length) = true := by
      intro p hp hlength
      exact hsome ⟨p, hp, of_decide_eq_true hlength⟩
    rw [List.filter_eq_nil_iff.mpr hnone, List.filter_eq_nil_iff.mpr]
    exact fun p hp => hnone p (h.perm.mem_iff.mp hp)

/-- Lists of pages with longer URLs in front are the same if they have the same pages for every
length of URLs. -/
theorem eq_of_filter_eq {first second : List PageRoute}
    (hfirst : first.Pairwise fun p q => q.url.utf8ByteSize ≤ p.url.utf8ByteSize)
    (hsecond : second.Pairwise fun p q => q.url.utf8ByteSize ≤ p.url.utf8ByteSize)
    (h : ∀ length, first.filter (fun q => q.url.utf8ByteSize = length) =
      second.filter fun q => q.url.utf8ByteSize = length) : first = second := by
  induction first generalizing second with
  | nil =>
      cases second with
      | nil => rfl
      | cons q second => simpa using h q.url.utf8ByteSize
  | cons p first ih =>
      cases second with
      | nil => simpa using h p.url.utf8ByteSize
      | cons q second =>
          have hmem : ∀ r, r ∈ p :: first ↔ r ∈ q :: second := by
            intro r
            have hboth := congrArg (r ∈ ·) (h r.url.utf8ByteSize)
            simpa only [List.mem_filter, decide_true, and_true, eq_iff_iff] using hboth
          -- each of the two heads is in the other list, so their URLs have the same length
          have hle : ∀ r ∈ p :: first, r.url.utf8ByteSize ≤ p.url.utf8ByteSize :=
            List.forall_mem_cons.mpr ⟨Nat.le_refl _, fun r => List.rel_of_pairwise_cons hfirst⟩
          have hle' : ∀ r ∈ q :: second, r.url.utf8ByteSize ≤ q.url.utf8ByteSize :=
            List.forall_mem_cons.mpr ⟨Nat.le_refl _, fun r => List.rel_of_pairwise_cons hsecond⟩
          have hsame : q.url.utf8ByteSize = p.url.utf8ByteSize :=
            Nat.le_antisymm (hle q ((hmem q).mpr List.mem_cons_self))
              (hle' p ((hmem p).mp List.mem_cons_self))
          have hhead := h p.url.utf8ByteSize
          simp only [List.filter_cons, hsame, decide_true, if_true] at hhead
          obtain rfl := (List.cons.inj hhead).1
          have hrest : ∀ length, first.filter (fun q => q.url.utf8ByteSize = length) =
              second.filter fun q => q.url.utf8ByteSize = length := by
            intro length
            have hboth := h length
            simp only [List.filter_cons] at hboth
            split at hboth
            · exact (List.cons.inj hboth).2
            · exact hboth
          rw [ih hfirst.of_cons hsecond.of_cons hrest]

theorem isPageOrder_iff {pages sorted : List PageRoute} :
    IsPageOrder pages sorted ↔ sorted = sortPages pages := by
  constructor
  · intro h
    have hsort := isPageOrder_sortPages pages
    exact eq_of_filter_eq h.longerFirst hsort.longerFirst fun length =>
      (h.filter_eq length).trans (hsort.filter_eq length).symm
  · rintro rfl
    exact isPageOrder_sortPages pages

end Waymark.Plan
