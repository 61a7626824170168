import Waymark.Pattern.Parse
import Waymark.Proofs.Pattern.SetLocality

/-! # Reading a pattern in front of a closing parenthesis

A pattern that is complete by itself reads the same when it stands in parentheses: nothing of it
leaks out of its group, and nothing behind the group leaks in. Patterns that set flags or look at
the position are left out.
-/

namespace Waymark.Pattern

/-- Whether a tree is made of characters, sets, groups, repetitions, sequences and alternatives
only: it neither looks at the position nor sets flags. -/
def Ast.isPlain : Ast → Bool
  | .assertion _ => false
  | .flags _ => false
  | .group (.plain items) body => items.isEmpty && body.isPlain
  | .group (.capture _) body => body.isPlain
  | .repeated body _ _ _ => body.isPlain
  | .cat a b => a.isPlain && b.isPlain
  | .alt a b => a.isPlain && b.isPlain
  | _ => true

@[simp]
theorem Ast.isPlain_append (item rest : Ast) :
    (item.append rest).isPlain = (item.isPlain && rest.isPlain) := by
  cases rest <;> simp [append, isPlain]

namespace Read

variable {text tail more : List Char}

theorem flags_append {negated dangling : Bool} {items : List (Flag × Bool)}
    {read : List (Flag × Bool) × Char} (h : flags negated dangling items text = .ok (read, tail)) :
    flags negated dangling items (text ++ more) = .ok (read, tail ++ more) := by
  induction text generalizing negated dangling items with
  | nil => cases h
  | cons c rest ih =>
      simp only [flags, List.cons_append] at h ⊢
      split at h
      next hclose =>
        rw [if_pos hclose]
        split at h
        next => cases h
        next hdangling =>
          cases h
          rw [if_neg hdangling]
      next hclose =>
        rw [if_neg hclose]
        split at h
        next hhyphen =>
          rw [if_pos hhyphen]
          split at h
          next => cases h
          next hnegated =>
            rw [if_neg hnegated]
            exact ih h
        next hhyphen =>
          rw [if_neg hhyphen]
          split at h
          next => cases h
          next flag hflag =>
            split at h
            next => cases h
            next hnew =>
              simp only [hnew]
              exact ih h

theorem groupNameTail_append {isFirst : Bool} {name : List Char}
    (h : groupNameTail isFirst text = .ok (name, tail)) :
    groupNameTail isFirst (text ++ more) = .ok (name, tail ++ more) := by
  induction text generalizing isFirst name with
  | nil => cases h
  | cons c rest ih =>
      simp only [groupNameTail, List.cons_append] at h ⊢
      split at h
      next hclose =>
        cases h
        rw [if_pos hclose]
      next hclose =>
        rw [if_neg hclose]
        split at h
        next hchar =>
          obtain ⟨⟨name', rest'⟩, hread, h⟩ := bind_eq_ok.mp h
          cases h
          rw [if_pos hchar]
          exact bind_eq_ok.mpr ⟨_, ih hread, rfl⟩
        next => cases h

theorem groupName_append {name : String} (h : groupName text = .ok (name, tail)) :
    groupName (text ++ more) = .ok (name, tail ++ more) := by
  unfold groupName at h ⊢
  obtain ⟨⟨name', rest⟩, hread, h⟩ := bind_eq_ok.mp h
  refine bind_eq_ok.mpr ⟨_, groupNameTail_append hread, ?_⟩
  dsimp only at h ⊢
  split at h
  next => cases h
  next hname =>
    cases h
    rw [if_neg hname]
    rfl

theorem opening_named (hequal : ∀ rest, text ≠ '=' :: rest) (hbang : ∀ rest, text ≠ '!' :: rest) :
    opening false ('?' :: '<' :: text) = (do
      let read ← groupName text
      pure (.group (.capture (some read.1)), read.2)) := by
  simp only [opening, skipBlank_false]

theorem opening_flags {c : Char} (hequal : c ≠ '=') (hbang : c ≠ '!') (hless : c ≠ '<')
    (hname : c ≠ 'P') :
    opening false ('?' :: c :: text) = (do
      let read ← flags false false [] (c :: text)
      if read.1.2 = ':' then pure (.group (.plain read.1.1), read.2)
      else if read.1.1.isEmpty then throw .nothingToRepeat
      else pure (.directive read.1.1, read.2)) := by
  simp only [opening, skipBlank_false]
  split
  all_goals simp_all

theorem opening_unmarked (h : ∀ rest, text ≠ '?' :: rest) :
    opening false text = .ok (.group (.capture none), text) := by
  simp only [opening, skipBlank_false]
  split
  all_goals first | exact absurd rfl (h _) | rfl

/-- What a parenthesis opens is settled by the text inside. -/
theorem opening_append {opened : Opening} (h : opening false text = .ok (opened, tail)) :
    opening false (text ++ ')' :: more) = .ok (opened, tail ++ ')' :: more) := by
  by_cases hmark : ∃ rest, text = '?' :: rest
  · obtain ⟨rest, rfl⟩ := hmark
    cases rest with
    | nil => cases h
    | cons c rest =>
        rw [List.cons_append, List.cons_append]
        by_cases hequal : c = '='
        · subst hequal
          cases h
        by_cases hbang : c = '!'
        · subst hbang
          cases h
        by_cases hless : c = '<'
        · subst hless
          have hrest : rest ≠ [] := by
            rintro rfl
            cases h
          have hequal : ∀ rest', rest ≠ '=' :: rest' := by
            rintro rest' rfl
            cases h
          have hbang : ∀ rest', rest ≠ '!' :: rest' := by
            rintro rest' rfl
            cases h
          rw [opening_named hequal hbang] at h
          rw [opening_named (append_ne_cons hequal hrest) (append_ne_cons hbang hrest)]
          obtain ⟨⟨name, rest'⟩, hname, h⟩ := bind_eq_ok.mp h
          cases h
          exact bind_eq_ok.mpr ⟨_, groupName_append hname, rfl⟩
        by_cases hname : c = 'P'
        · subst hname
          by_cases hless : ∃ rest', rest = '<' :: rest'
          · obtain ⟨rest, rfl⟩ := hless
            obtain ⟨⟨name, rest'⟩, hname, h⟩ := bind_eq_ok.mp h
            cases h
            exact bind_eq_ok.mpr ⟨_, groupName_append hname, rfl⟩
          · -- `P` is no flag
            cases rest with
            | nil => cases h
            | cons d rest =>
                have hd : d ≠ '<' := by
                  rintro rfl
                  exact hless ⟨rest, rfl⟩
                simp [opening, hd, flags, flag?, bind, Except.bind] at h
        · rw [opening_flags hequal hbang hless hname] at h ⊢
          obtain ⟨⟨⟨items, closing⟩, rest'⟩, hflags, h⟩ := bind_eq_ok.mp h
          refine bind_eq_ok.mpr ⟨_, flags_append hflags, ?_⟩
          dsimp only at h ⊢
          split at h
          next hcolon =>
            cases h
            rw [if_pos hcolon]
            rfl
          next hcolon =>
            rw [if_neg hcolon]
            split at h
            next => cases h
            next hitems =>
              cases h
              rw [if_neg hitems]
              rfl
  · have hmark' : ∀ rest, text ≠ '?' :: rest := fun rest heq => hmark ⟨rest, heq⟩
    rw [opening_unmarked hmark'] at h
    cases h
    cases text with
    | nil => rfl
    | cons c rest => rw [opening_unmarked (append_ne_cons hmark' (List.cons_ne_nil _ _))]

theorem digits_eq {fuel : Nat} (h : text.length ≤ fuel) :
    decimal.digits false fuel text =
      (text.takeWhile Char.isDigit, text.dropWhile Char.isDigit) := by
  induction fuel generalizing text with
  | zero =>
      obtain rfl := List.length_eq_zero_iff.mp (Nat.le_zero.mp h)
      rfl
  | succ fuel ih =>
      cases text with
      | nil => rfl
      | cons c rest =>
          simp only [decimal.digits, skipBlank_false]
          split
          next hdigit =>
            rw [ih (by simpa using h), List.takeWhile_cons_of_pos hdigit,
              List.dropWhile_cons_of_pos hdigit]
          next hdigit =>
            rw [List.takeWhile_cons_of_neg hdigit, List.dropWhile_cons_of_neg hdigit]

theorem decimal_eq (text : List Char) :
    decimal false text =
      let front := text.dropWhile Unicode.isWhiteSpace
      let found := front.takeWhile Char.isDigit
      let n := found.foldl (fun acc c => acc * 10 + (c.toNat - 48)) 0
      if found.isEmpty then none
      else if n < UInt32.size then
        some (n, (front.dropWhile Char.isDigit).dropWhile Unicode.isWhiteSpace)
      else none := by
  have hlength : (text.dropWhile Unicode.isWhiteSpace).length ≤ text.length + 1 :=
    Nat.le_succ_of_le (List.dropWhile_sublist _).length_le
  simp only [decimal, skipBlank_false, digits_eq hlength]

theorem dropWhile_append_of_ne_nil {p : Char → Bool} (h : text.dropWhile p ≠ []) :
    (text ++ more).dropWhile p = text.dropWhile p ++ more := by
  rw [List.dropWhile_append, if_neg (by simpa using h)]

theorem takeWhile_append_of_ne_nil {p : Char → Bool} (h : text.dropWhile p ≠ []) :
    (text ++ more).takeWhile p = text.takeWhile p := by
  rw [List.takeWhile_append, if_neg]
  intro hlength
  have hsplit := congrArg List.length (@List.takeWhile_append_dropWhile _ p text)
  rw [List.length_append, hlength] at hsplit
  exact h (List.length_eq_zero_iff.mp (by omega))

/-- Behind a number that does not end the text more text changes nothing. -/
theorem decimal_append {n : Nat} (h : decimal false text = some (n, tail)) (htail : tail ≠ []) :
    decimal false (text ++ more) = some (n, tail ++ more) := by
  rw [decimal_eq] at h ⊢
  dsimp only at h ⊢
  split at h
  next => cases h
  next hfound =>
    split at h
    next hsize =>
      obtain ⟨rfl, rfl⟩ := Prod.mk.inj (Option.some.inj h)
      have hdigits : (text.dropWhile Unicode.isWhiteSpace).dropWhile Char.isDigit ≠ [] := by
        intro heq
        rw [heq] at htail
        exact htail rfl
      have hblank : text.dropWhile Unicode.isWhiteSpace ≠ [] := by
        intro heq
        rw [heq] at hdigits
        exact hdigits rfl
      rw [dropWhile_append_of_ne_nil hblank, takeWhile_append_of_ne_nil hdigits,
        dropWhile_append_of_ne_nil hdigits, dropWhile_append_of_ne_nil htail,
        if_neg hfound, if_pos hsize]
    next => cases h

theorem length_decimal {n : Nat} (h : decimal false text = some (n, tail)) :
    tail.length ≤ text.length := by
  rw [decimal_eq] at h
  dsimp only at h
  split at h
  next => cases h
  next =>
    split at h
    next =>
      obtain ⟨-, rfl⟩ := Prod.mk.inj (Option.some.inj h)
      exact (((List.dropWhile_sublist _).trans (List.dropWhile_sublist _)).trans
        (List.dropWhile_sublist _)).length_le
    next => cases h

theorem bounds_append {read : Bounds} (h : bounds false text = .ok (read, tail)) :
    bounds false (text ++ more) = .ok (read, tail ++ more) := by
  unfold bounds at h ⊢
  simp only [skipBlank_false] at h ⊢
  split at h
  next => cases h
  next low rest hlow =>
    cases h
    rw [decimal_append hlow (List.cons_ne_nil _ _)]
    rfl
  next low rest hlow =>
    rw [decimal_append hlow (List.cons_ne_nil _ _)]
    simp only [List.cons_append]
    split at h
    next =>
      cases h
      rfl
    next hopen =>
      split at h
      next high rest' hhigh =>
        have hrest : rest ≠ [] := by
          rintro rfl
          cases hhigh
        have hmore := @decimal_append _ _ more _ hhigh (List.cons_ne_nil _ _)
        split
        next heq => exact absurd heq (append_ne_cons hopen hrest _)
        next =>
          rw [hmore]
          simp only [List.cons_append]
          split at h
          next hle =>
            cases h
            rw [if_pos hle]
          next => cases h
      next => cases h
  next => cases h

theorem length_bounds {read : Bounds} (h : bounds false text = .ok (read, tail)) :
    tail.length ≤ text.length := by
  unfold bounds at h
  simp only [skipBlank_false] at h
  split at h
  next => cases h
  next low rest hlow =>
    cases h
    have := length_decimal hlow
    simp only [List.length_cons] at this
    omega
  next low rest hlow =>
    have := length_decimal hlow
    simp only [List.length_cons] at this
    split at h
    next =>
      cases h
      simp only [List.length_cons] at this
      omega
    next =>
      split at h
      next high rest' hhigh =>
        have hrest := length_decimal hhigh
        simp only [List.length_cons] at hrest
        split at h
        next =>
          cases h
          omega
        next => cases h
      next => cases h
  next => cases h

theorem greed_append (text more : List Char) :
    greed (text ++ ')' :: more) = ((greed text).1, (greed text).2 ++ ')' :: more) := by
  unfold greed
  cases text with
  | nil => rfl
  | cons c rest =>
      by_cases hc : c = '?'
      · subst hc
        rfl
      · simp [hc]

theorem length_greed (text : List Char) : (greed text).2.length ≤ text.length := by
  unfold greed
  split
  · exact Nat.le_succ _
  · exact Nat.le_refl _

theorem repetition?_append {read : Option (Bounds × Bool × List Char)}
    (h : repetition? false text = .ok read) :
    repetition? false (text ++ ')' :: more) =
      .ok (read.map fun found => (found.1, found.2.1, found.2.2 ++ ')' :: more)) := by
  unfold repetition? at h ⊢
  simp only [skipBlank_false] at h ⊢
  split at h
  next rest =>
    cases h
    simp [greed_append]
  next rest =>
    cases h
    simp [greed_append]
  next rest =>
    cases h
    simp [greed_append]
  next rest =>
    obtain ⟨⟨found, rest'⟩, hbounds, h⟩ := bind_eq_ok.mp h
    cases h
    refine bind_eq_ok.mpr ⟨_, bounds_append hbounds, ?_⟩
    simp [greed_append, pure, Except.pure]
  next hopt hstar hplus hbrace =>
    cases h
    cases text with
    | nil => rfl
    | cons c rest =>
        split
        next heq => exact absurd heq (append_ne_cons hopt (List.cons_ne_nil _ _) _)
        next heq => exact absurd heq (append_ne_cons hstar (List.cons_ne_nil _ _) _)
        next heq => exact absurd heq (append_ne_cons hplus (List.cons_ne_nil _ _) _)
        next heq => exact absurd heq (append_ne_cons hbrace (List.cons_ne_nil _ _) _)
        next => rfl

theorem length_repetition? {found : Bounds} {greedy : Bool}
    (h : repetition? false text = .ok (some (found, greedy, tail))) :
    tail.length < text.length := by
  unfold repetition? at h
  simp only [skipBlank_false] at h
  split at h
  case h_1 rest | h_2 rest | h_3 rest =>
    cases h
    exact Nat.lt_succ_of_le (length_greed rest)
  case h_4 rest =>
    obtain ⟨⟨read, rest'⟩, hbounds, h⟩ := bind_eq_ok.mp h
    cases h
    exact Nat.lt_succ_of_le (Nat.le_trans (length_greed rest') (length_bounds hbounds))
  case h_5 => cases h

/-- Repetition operators are read alike in front of a closing parenthesis, provided the fuel
does not run out. -/
theorem repetitions_append {fuel fuel' : Nat} {item read : Ast}
    (h : repetitions false fuel item text = .ok (read, tail)) (hlength : text.length < fuel)
    (hfuel : fuel ≤ fuel') :
    repetitions false fuel' item (text ++ ')' :: more) = .ok (read, tail ++ ')' :: more) := by
  induction fuel generalizing fuel' item text with
  | zero => omega
  | succ fuel ih =>
      obtain ⟨fuel', rfl⟩ := Nat.exists_eq_add_of_le' (Nat.le_trans (Nat.le_add_left 1 fuel) hfuel)
      simp only [repetitions] at h ⊢
      obtain ⟨found, hfound, h⟩ := bind_eq_ok.mp h
      refine bind_eq_ok.mpr ⟨_, repetition?_append hfound, ?_⟩
      cases found with
      | none =>
          cases h
          rfl
      | some found =>
          obtain ⟨⟨low, high⟩, greedy, rest⟩ := found
          have hshorter := length_repetition? hfound
          dsimp only [Option.map_some] at h ⊢
          split at h
          next => cases h
          next => exact ih h (by omega) (by omega)

theorem isPlain_repetitions {verbose : Bool} {fuel : Nat} {item read : Ast}
    (h : repetitions verbose fuel item text = .ok (read, tail)) :
    read.isPlain = item.isPlain := by
  induction fuel generalizing item text with
  | zero =>
      cases h
      rfl
  | succ fuel ih =>
      simp only [repetitions] at h
      obtain ⟨found, hfound, h⟩ := bind_eq_ok.mp h
      cases found with
      | none =>
          cases h
          rfl
      | some found =>
          dsimp only at h
          split at h
          next => cases h
          next =>
            have hplain := ih h
            exact hplain

/-- A reader reads what another does in front of a closing parenthesis, as long as that is made
of characters only. -/
def ReadsAlike (reader reader' : List Char → Except Error ((Ast × Bool) × List Char)) : Prop :=
  ∀ ⦃text tail more : List Char⦄ ⦃ast : Ast⦄ ⦃verbose : Bool⦄,
    reader text = .ok ((ast, verbose), tail) → ast.isPlain = true →
      verbose = false ∧ reader' (text ++ ')' :: more) = .ok ((ast, false), tail ++ ')' :: more)

section Readers

variable {fuel fuel' : Nat}

theorem readsAlike_alternatives
    (hsequence : ReadsAlike (sequence fuel false) (sequence fuel' false))
    (halternatives : ReadsAlike (alternatives fuel false) (alternatives fuel' false)) :
    ReadsAlike (alternatives (fuel + 1) false) (alternatives (fuel' + 1) false) := by
  intro text tail more ast verbose h hplain
  simp only [alternatives] at h ⊢
  obtain ⟨⟨⟨first, verbose'⟩, rest⟩, hfirst, h⟩ := bind_eq_ok.mp h
  dsimp only at h
  split at h
  next rest' =>
    obtain ⟨⟨⟨others, verbose''⟩, rest''⟩, hothers, h⟩ := bind_eq_ok.mp h
    cases h
    simp only [Ast.isPlain, Bool.and_eq_true] at hplain
    obtain ⟨rfl, hfirst'⟩ := @hsequence _ _ more _ _ hfirst hplain.1
    obtain ⟨rfl, hothers'⟩ := @halternatives _ _ more _ _ hothers hplain.2
    exact ⟨rfl, bind_eq_ok.mpr ⟨_, hfirst', bind_eq_ok.mpr ⟨_, hothers', rfl⟩⟩⟩
  next hbar =>
    cases h
    obtain ⟨rfl, hfirst'⟩ := @hsequence _ _ more _ _ hfirst hplain
    refine ⟨rfl, bind_eq_ok.mpr ⟨_, hfirst', ?_⟩⟩
    -- a parenthesis behind the rest is no bar either
    cases tail with
    | nil => rfl
    | cons c tail =>
        dsimp only
        split
        next heq => exact absurd heq (append_ne_cons hbar (List.cons_ne_nil _ _) _)
        next => rfl

theorem sequence_cons {c : Char} (hbar : c ≠ '|') (hclose : c ≠ ')') :
    sequence (fuel + 1) false (c :: text) = (do
      let read ← atom fuel false c text
      let counted ← repetitions read.1.2 (read.2.length + 1) read.1.1 read.2
      let others ← sequence fuel read.1.2 counted.2
      pure ((counted.1.append others.1.1, others.1.2), others.2)) := by
  simp only [sequence, skipBlank_false]

theorem readsAlike_sequence (hatom : ∀ c, ReadsAlike (atom fuel false c) (atom fuel' false c))
    (hsequence : ReadsAlike (sequence fuel false) (sequence fuel' false)) :
    ReadsAlike (sequence (fuel + 1) false) (sequence (fuel' + 1) false) := by
  intro text tail more ast verbose h hplain
  simp only [sequence, skipBlank_false] at h
  split at h
  case h_1 | h_2 | h_3 =>
    cases h
    exact ⟨rfl, rfl⟩
  case h_4 c rest hbar hclose =>
    obtain ⟨⟨⟨item, verbose'⟩, rest'⟩, hitem, h⟩ := bind_eq_ok.mp h
    obtain ⟨⟨item', rest''⟩, hrepeated, h⟩ := bind_eq_ok.mp h
    obtain ⟨⟨⟨others, verbose''⟩, rest'''⟩, hothers, h⟩ := bind_eq_ok.mp h
    cases h
    rw [Ast.isPlain_append, Bool.and_eq_true] at hplain
    have hplain' : item.isPlain = true := (isPlain_repetitions hrepeated).symm.trans hplain.1
    obtain ⟨rfl, hitem'⟩ := @hatom c _ _ more _ _ hitem hplain'
    obtain ⟨rfl, hothers'⟩ := @hsequence _ _ more _ _ hothers hplain.2
    -- the fuel for the operators is the length of the text, which has grown
    have hrepeated' := @repetitions_append _ _ more _ ((rest' ++ ')' :: more).length + 1) _ _
      hrepeated (Nat.lt_succ_self _) (by simp)
    refine ⟨rfl, ?_⟩
    rw [List.cons_append, sequence_cons (fun heq => hbar heq) (fun heq => hclose heq)]
    exact bind_eq_ok.mpr ⟨_, hitem', bind_eq_ok.mpr ⟨_, hrepeated',
      bind_eq_ok.mpr ⟨_, hothers', rfl⟩⟩⟩

/-- Whether blanks count inside a group that stands in a text read in some mode. -/
def insideMode (verbose : Bool) : GroupKind → Bool
  | .plain items => (setting? .verbose items).getD verbose
  | .capture _ => verbose

/-- A plain group keeps the mode of the text around it. -/
theorem insideMode_of_isPlain {kind : GroupKind} {body : Ast}
    (h : (Ast.group kind body).isPlain = true) :
    insideMode false kind = false ∧ body.isPlain = true := by
  cases kind with
  | capture => exact ⟨rfl, h⟩
  | plain items =>
      simp only [Ast.isPlain, Bool.and_eq_true, List.isEmpty_iff] at h
      obtain ⟨rfl, hbody⟩ := h
      exact ⟨rfl, hbody⟩

theorem atom_parenthesis (verbose : Bool) :
    atom (fuel + 1) verbose '(' text = (do
      let read ← opening verbose text
      match read.1 with
      | .directive items =>
          pure ((.flags items, (setting? .verbose items).getD verbose), read.2)
      | .group kind =>
          let body ← alternatives fuel (insideMode verbose kind) read.2
          match body.2 with
          | ')' :: rest => pure ((.group kind body.1.1, verbose), rest)
          | _ => throw .unclosedGroup) := by
  simp only [atom]
  congr 1
  funext read
  obtain ⟨opened, rest⟩ := read
  cases opened with
  | directive => rfl
  | group kind => cases kind <;> rfl

theorem readsAlike_atom
    (halternatives : ReadsAlike (alternatives fuel false) (alternatives fuel' false)) (c : Char) :
    ReadsAlike (atom (fuel + 1) false c) (atom (fuel' + 1) false c) := by
  intro text tail more ast verbose h hplain
  by_cases hparen : c = '('
  · -- the only atom that reads on with less fuel
    subst hparen
    rw [atom_parenthesis] at h ⊢
    obtain ⟨⟨opened, rest⟩, hopened, h⟩ := bind_eq_ok.mp h
    have hopened' := @opening_append _ _ more _ hopened
    dsimp only at h
    split at h
    next items =>
      -- flags set inside the text would make the tree not plain
      cases h
      simp [Ast.isPlain] at hplain
    next kind =>
      obtain ⟨⟨⟨body, verbose'⟩, rest'⟩, hbody, h⟩ := bind_eq_ok.mp h
      dsimp only at hopened' h
      split at h
      next =>
        cases h
        obtain ⟨hmode, hplain'⟩ := insideMode_of_isPlain hplain
        rw [hmode] at hbody
        obtain ⟨rfl, hbody'⟩ := @halternatives _ _ more _ _ hbody hplain'
        refine ⟨rfl, bind_eq_ok.mpr ⟨_, hopened', ?_⟩⟩
        dsimp only
        rw [hmode]
        exact bind_eq_ok.mpr ⟨_, hbody', rfl⟩
      next => cases h
  simp only [atom] at h ⊢
  split at h
  next => exact absurd rfl hparen
  next =>
    obtain ⟨⟨⟨negated, inner⟩, rest⟩, hset, h⟩ := bind_eq_ok.mp h
    cases h
    refine ⟨rfl, bind_eq_ok.mpr ⟨_, (setBody_append _).2 ?_ hset, rfl⟩⟩
    simp only [List.length_append]
    omega
  next => cases h
  next => cases h
  next => cases h
  next => cases h
  next =>
    obtain ⟨⟨item, rest⟩, hescape, h⟩ := bind_eq_ok.mp h
    cases h
    refine ⟨rfl, bind_eq_ok.mpr ⟨_, escape_append hescape ?_, rfl⟩⟩
    cases item with
    | assertion => simp [ofPrimitive, Ast.isPlain] at hplain
    | _ => trivial
  next =>
    cases h
    exact ⟨rfl, rfl⟩
  next =>
    cases h
    simp [Ast.isPlain] at hplain
  next =>
    cases h
    simp [Ast.isPlain] at hplain
  next =>
    cases h
    exact ⟨rfl, rfl⟩

end Readers

/-- More fuel changes nothing about a reading that succeeds. -/
theorem reads_mono (fuel : Nat) : ∀ {fuel' : Nat}, fuel ≤ fuel' →
    (∀ {verbose text read}, alternatives fuel verbose text = .ok read →
      alternatives fuel' verbose text = .ok read) ∧
    (∀ {verbose text read}, sequence fuel verbose text = .ok read →
      sequence fuel' verbose text = .ok read) ∧
    ∀ {verbose c text read}, atom fuel verbose c text = .ok read →
      atom fuel' verbose c text = .ok read := by
  induction fuel with
  | zero => exact fun _ => ⟨nofun, nofun, nofun⟩
  | succ fuel ih =>
      intro fuel' hfuel
      obtain ⟨fuel', rfl⟩ := Nat.exists_eq_add_of_le' (Nat.le_trans (Nat.le_add_left 1 fuel) hfuel)
      obtain ⟨halternatives, hsequence, hatom⟩ := @ih fuel' (by omega)
      refine ⟨?_, ?_, ?_⟩
      · intro verbose text read h
        simp only [alternatives] at h ⊢
        obtain ⟨first, hfirst, h⟩ := bind_eq_ok.mp h
        refine bind_eq_ok.mpr ⟨_, hsequence hfirst, ?_⟩
        split at h
        next =>
          obtain ⟨others, hothers, h⟩ := bind_eq_ok.mp h
          exact bind_eq_ok.mpr ⟨_, halternatives hothers, h⟩
        next => exact h
      · intro verbose text read h
        simp only [sequence] at h ⊢
        split at h
        case h_1 | h_2 | h_3 => exact h
        case h_4 =>
          obtain ⟨item, hitem, h⟩ := bind_eq_ok.mp h
          obtain ⟨counted, hcounted, h⟩ := bind_eq_ok.mp h
          obtain ⟨others, hothers, h⟩ := bind_eq_ok.mp h
          exact bind_eq_ok.mpr ⟨_, hatom hitem, bind_eq_ok.mpr ⟨_, hcounted,
            bind_eq_ok.mpr ⟨_, hsequence hothers, h⟩⟩⟩
      · intro verbose c text read h
        by_cases hparen : c = '('
        · subst hparen
          rw [atom_parenthesis] at h ⊢
          obtain ⟨opened, hopened, h⟩ := bind_eq_ok.mp h
          refine bind_eq_ok.mpr ⟨_, hopened, ?_⟩
          split at h
          next => exact h
          next =>
            obtain ⟨body, hbody, h⟩ := bind_eq_ok.mp h
            exact bind_eq_ok.mpr ⟨_, halternatives hbody, h⟩
        · simp only [atom] at h ⊢
          split at h
          next => exact absurd rfl hparen
          all_goals exact h

theorem readsAlike (fuel : Nat) : ∀ {fuel' : Nat}, fuel ≤ fuel' →
    ReadsAlike (alternatives fuel false) (alternatives fuel' false) ∧
    ReadsAlike (sequence fuel false) (sequence fuel' false) ∧
    ∀ c, ReadsAlike (atom fuel false c) (atom fuel' false c) := by
  induction fuel with
  | zero => exact fun _ => ⟨nofun, nofun, nofun⟩
  | succ fuel ih =>
      intro fuel' hfuel
      obtain ⟨fuel', rfl⟩ := Nat.exists_eq_add_of_le' (Nat.le_trans (Nat.le_add_left 1 fuel) hfuel)
      obtain ⟨halternatives, hsequence, hatom⟩ := @ih fuel' (by omega)
      exact ⟨readsAlike_alternatives hsequence halternatives, readsAlike_sequence hatom hsequence,
        readsAlike_atom halternatives⟩

end Read

end Waymark.Pattern
