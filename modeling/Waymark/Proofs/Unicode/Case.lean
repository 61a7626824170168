import Waymark.Pattern.CharSet

/-! # Case across the border of ASCII

A run of case pairs lies in ASCII with both of its halves or outside of it with both, and of the
orbits that are listed as a whole only two cross the border. So in ASCII case is the case of ASCII
letters, and a set of ASCII characters that is closed under case has two characters outside ASCII
at most: the long s and the sign for kelvin.
-/

namespace Waymark.Unicode

/-- All code points between two bounds are characters outside ASCII. -/
def Beyond (first last : Nat) : Prop :=
  0x80 ≤ first ∧ first ≤ last ∧ (last < 0xD800 ∨ 0xDFFF < first ∧ last < 0x110000)

instance (first last : Nat) : Decidable (Beyond first last) :=
  inferInstanceAs (Decidable (_ ∧ _))

variable {first last n m : Nat} {c d : Char} {run : Nat × Nat × Nat × Nat}

theorem Beyond.le_toNat (h : Beyond first last) (hfirst : first ≤ n) (hlast : n ≤ last) :
    0x80 ≤ (Char.ofNat n).toNat := by
  obtain ⟨hbeyond, -, hvalid⟩ := h
  have hchar : n.isValidChar := by
    unfold Nat.isValidChar
    omega
  have hsame : (Char.ofNat n).toNat = n := by
    rw [Char.ofNat, dif_pos hchar]
    rfl
  omega

theorem toNat_lt_of_le (h : c ≤ d) (hd : d.toNat < 0x80) : c.toNat < 0x80 :=
  Nat.lt_of_le_of_lt (UInt32.le_iff_toNat_le.mp h) hd

theorem toNat_lt_of_toLower (h : c.toLower.toNat < 0x80) : c.toNat < 0x80 := by
  unfold Char.toLower at h
  split at h
  next hupper => exact toNat_lt_of_le (d := 'Z') hupper.2 (by decide)
  next => exact h

/-! ## Runs and orbits on either side -/

/-- The first runs of case pairs are those of ASCII letters. -/
theorem ascii_of_mem_casePairs : ∀ run ∈ casePairs.take 3,
    run.2.1 < 0x80 ∧ run.2.2.2 + (run.2.1 - run.1) < 0x80 := by
  decide

/-- All others lie outside ASCII. -/
theorem beyond_of_mem_casePairs : ∀ run ∈ casePairs.drop 3,
    Beyond run.1 run.2.1 ∧ Beyond run.2.2.2 (run.2.2.2 + (run.2.1 - run.1)) := by
  decide +kernel

/-- The first orbits reach out of ASCII with one character each. -/
theorem crossing_of_mem_caseOrbits : ∀ orbit ∈ caseOrbits.take 2, ∀ m ∈ orbit,
    m < 0x80 ∨ m = '\u017f'.toNat ∨ m = '\u212a'.toNat := by
  decide

/-- All others lie outside ASCII. -/
theorem beyond_of_mem_caseOrbits : ∀ orbit ∈ caseOrbits.drop 2, ∀ m ∈ orbit, Beyond m m := by
  decide +kernel

/-- What a run that lies outside ASCII pairs lies outside ASCII. -/
theorem beyond_of_partnerIn? (hlower : Beyond run.1 run.2.1)
    (hupper : Beyond run.2.2.2 (run.2.2.2 + (run.2.1 - run.1))) (h : partnerIn? n run = some m) :
    0x80 ≤ n ∧ 0x80 ≤ (Char.ofNat m).toNat := by
  obtain ⟨first, last, step, partner⟩ := run
  dsimp only at hlower hupper
  have hfirst := hlower.1
  have hle := hlower.2.1
  have hpartner := hupper.1
  unfold partnerIn? at h
  dsimp only at h
  split at h
  next hin =>
    cases h
    exact ⟨by omega, hupper.le_toNat (by omega) (by omega)⟩
  next =>
    split at h
    next hin =>
      cases h
      exact ⟨by omega, hlower.le_toNat (by omega) (by omega)⟩
    next => cases h

/-- A run of ASCII letters pairs nothing else. -/
theorem lt_of_partnerIn? (hlower : run.2.1 < 0x80)
    (hupper : run.2.2.2 + (run.2.1 - run.1) < 0x80) (h : partnerIn? n run = some m) :
    n < 0x80 := by
  obtain ⟨first, last, step, partner⟩ := run
  dsimp only at hlower hupper
  unfold partnerIn? at h
  dsimp only at h
  split at h
  next hin => omega
  next =>
    split at h
    next hin => omega
    next => cases h

/-! ## Variants of a character -/

/-- Outside ASCII only two characters differ in case from a character of ASCII. -/
theorem le_toNat_of_mem_caseVariants (h : d ∈ caseVariants c) (hc : 0x80 ≤ c.toNat) :
    0x80 ≤ d.toNat ∨ c = '\u017f' ∨ c = '\u212a' := by
  unfold caseVariants at h
  split at h
  next orbit hfind =>
    have hcontains := List.find?_some hfind
    have hmem : c.toNat ∈ orbit := by simpa using hcontains
    have horbit := List.mem_of_find?_eq_some hfind
    rw [← List.take_append_drop 2 caseOrbits, List.mem_append] at horbit
    obtain ⟨m, hm, rfl⟩ := List.mem_map.mp h
    obtain horbit | horbit := horbit
    · have hcross := (crossing_of_mem_caseOrbits orbit horbit _ hmem).resolve_left (by omega)
      exact .inr (hcross.imp Char.toNat_inj.mp Char.toNat_inj.mp)
    · have hbeyond := beyond_of_mem_caseOrbits orbit horbit m (List.mem_filter.mp hm).1
      exact .inl (hbeyond.le_toNat (Nat.le_refl m) (Nat.le_refl m))
  next =>
    rw [Option.mem_toList, Option.map_eq_some_iff] at h
    obtain ⟨m, hsome, rfl⟩ := h
    obtain ⟨run, hrun, hpartner⟩ := List.exists_of_findSome?_eq_some hsome
    rw [← List.take_append_drop 3 casePairs, List.mem_append] at hrun
    obtain hrun | hrun := hrun
    · obtain ⟨hlower, hupper⟩ := ascii_of_mem_casePairs run hrun
      have hlt := lt_of_partnerIn? hlower hupper hpartner
      omega
    · obtain ⟨hlower, hupper⟩ := beyond_of_mem_casePairs run hrun
      exact .inl (beyond_of_partnerIn? hlower hupper hpartner).2

/-- The other members of a character's orbit, by some orbits and runs of pairs. -/
def variantsIn (orbits : List (List Nat)) (runs : List (Nat × Nat × Nat × Nat)) (c : Char) :
    List Char :=
  match orbits.find? (·.contains c.toNat) with
  | some orbit => (orbit.filter (· ≠ c.toNat)).map Char.ofNat
  | none => ((runs.findSome? (partnerIn? c.toNat)).map Char.ofNat).toList

/-- In ASCII the first orbits and runs are enough. -/
theorem caseVariants_eq_of_ascii (hc : c.toNat < 0x80) :
    caseVariants c = variantsIn (caseOrbits.take 2) (casePairs.take 3) c := by
  have horbits : (caseOrbits.drop 2).find? (·.contains c.toNat) = none := by
    rw [List.find?_eq_none]
    intro orbit horbit hcontains
    have hmem : c.toNat ∈ orbit := by simpa using hcontains
    have hbeyond := (beyond_of_mem_caseOrbits orbit horbit _ hmem).1
    omega
  have hruns : (casePairs.drop 3).findSome? (partnerIn? c.toNat) = none := by
    rw [List.findSome?_eq_none_iff]
    intro run hrun
    obtain ⟨hlower, hupper⟩ := beyond_of_mem_casePairs run hrun
    refine Option.eq_none_iff_forall_ne_some.mpr fun m hpartner => ?_
    have hbeyond := (beyond_of_partnerIn? hlower hupper hpartner).1
    omega
  change variantsIn caseOrbits casePairs c = _
  rw [← List.take_append_drop 2 caseOrbits, ← List.take_append_drop 3 casePairs]
  unfold variantsIn
  rw [List.find?_append, List.findSome?_append, horbits, hruns, Option.or_none, Option.or_none]
  rfl

end Waymark.Unicode

namespace Waymark.Pattern.CharSet

open Unicode

variable {set : CharSet} {c : Char}

/-- In ASCII the variants are those of ASCII letters. -/
theorem filter_caseVariants (hc : c.toNat < 0x80) :
    (caseVariants c).filter (·.toNat < 0x80) = asciiVariants c := by
  have hall : ∀ n < 0x80,
      (variantsIn (caseOrbits.take 2) (casePairs.take 3) (Char.ofNat n)).filter
        (·.toNat < 0x80) = asciiVariants (Char.ofNat n) := by
    decide +kernel
  have hvariants := hall c.toNat hc
  rwa [Char.ofNat_toNat, ← caseVariants_eq_of_ascii hc] at hvariants

/-- A set of ASCII characters that is closed under case has the same characters in ASCII whether or
not other letters have case. -/
theorem contains_folded_of_ascii (hset : ∀ c, set.contains c = true → c.toNat < 0x80)
    (hc : c.toNat < 0x80) : (folded set).contains c = (foldedAscii set).contains c := by
  rw [contains, contains, ← filter_caseVariants hc, List.any_filter]
  refine congrArg _ (List.any_congr rfl fun d => ?_)
  cases hd : set.contains d with
  | false => rw [Bool.and_false]
  | true => simp [hset d hd]

/-- What a set of ASCII characters becomes when it is closed under case shows in ASCII and at two
other characters. -/
theorem contains_folded_eq {test : Char → Bool}
    (hset : ∀ c, set.contains c = true → c.toNat < 0x80)
    (htest : ∀ c, test c = true → c.toNat < 0x80 ∨ c = '\u017f' ∨ c = '\u212a')
    (hall : ∀ n < 0x80, (foldedAscii set).contains (Char.ofNat n) = test (Char.ofNat n))
    (hlong : (folded set).contains '\u017f' = test '\u017f')
    (hkelvin : (folded set).contains '\u212a' = test '\u212a') (c : Char) :
    (folded set).contains c = test c := by
  by_cases hc : c.toNat < 0x80
  · have hsame := hall c.toNat hc
    rwa [Char.ofNat_toNat, ← contains_folded_of_ascii hset hc] at hsame
  · by_cases hcross : c = '\u017f' ∨ c = '\u212a'
    · obtain rfl | rfl := hcross
      · exact hlong
      · exact hkelvin
    · -- neither the character is in the set nor one that differs in case
      have hout : test c = false := by
        rw [Bool.eq_false_iff]
        exact fun h => (htest c h).elim hc hcross
      have hnot : set.contains c = false := by
        rw [Bool.eq_false_iff]
        exact fun h => hc (hset c h)
      have hvariants : (caseVariants c).any set.contains = false := by
        rw [List.any_eq_false]
        intro d hd h
        have hle := (le_toNat_of_mem_caseVariants hd (by omega)).resolve_right hcross
        have hlt := hset d h
        omega
      rw [contains, hnot, hvariants, hout]
      rfl

/-- Sets with the same characters have the same characters when they are closed under case. -/
theorem contains_folded_congr {other : CharSet} (h : ∀ c, set.contains c = other.contains c)
    (c : Char) : (folded set).contains c = (folded other).contains c := by
  rw [contains, contains, h, funext h]

/-! ## Single characters -/

/-- Whether a character of ASCII and those that differ from it in case are the characters that a
function takes to it, as far as ASCII and the two characters that cross its border show. -/
def isFoldOf (fold : Char → Char) (d : Char) : Bool :=
  decide (d.toNat < 0x80) &&
    ((List.range 0x80).all fun n =>
      (foldedAscii (only d)).contains (Char.ofNat n) == (fold (Char.ofNat n) == d)) &&
    ['\u017f', '\u212a'].all fun c => (folded (only d)).contains c == (fold c == d)

theorem contains_of_isFoldOf {fold : Char → Char} {d : Char}
    (hfold : ∀ c, (fold c).toNat < 0x80 → c.toNat < 0x80 ∨ c = '\u017f' ∨ c = '\u212a')
    (hd : isFoldOf fold d = true) (c : Char) :
    (folded (only d)).contains c = (fold c == d) := by
  simp only [isFoldOf, Bool.and_eq_true, List.all_eq_true, List.mem_range, beq_iff_eq,
    decide_eq_true_eq] at hd
  obtain ⟨⟨hascii, hall⟩, hcross⟩ := hd
  refine @contains_folded_eq _ (fun c => fold c == d) ?_ ?_ hall (hcross _ (by simp))
    (hcross _ (by simp)) c
  · intro c h
    rw [beq_iff_eq.mp h]
    exact hascii
  · intro c h
    rw [← beq_iff_eq.mp h] at hascii
    exact hfold c hascii

end Waymark.Pattern.CharSet
