import Waymark.Pattern.Read
import Waymark.Proofs.Outcome

/-! # Reading an escape or a set in front of more text

What a reader of escapes or sets answers does not depend on the text behind it. Only a named class
looks ahead, to the next colon; with a closing parenthesis on the way there it is not one.
-/

namespace Waymark.Pattern.Read

variable {text tail more : List Char}

@[simp]
theorem skipBlank_false (text : List Char) : skipBlank false text = text := rfl

theorem hexDigits_append {count acc n : Nat} (h : hexDigits false count acc text = .ok (n, tail)) :
    hexDigits false count acc (text ++ more) = .ok (n, tail ++ more) := by
  induction count generalizing acc text with
  | zero =>
      cases h
      rfl
  | succ count ih =>
      cases text with
      | nil => cases h
      | cons c rest =>
          simp only [hexDigits, List.cons_append, skipBlank_false] at h ⊢
          split at h
          next d hd => exact ih h
          next => cases h

theorem bracedHexDigits_append {fuel fuel' n : Nat} {acc : Option Nat}
    (h : bracedHexDigits false fuel acc text = .ok (n, tail)) (hfuel : fuel ≤ fuel') :
    bracedHexDigits false fuel' acc (text ++ more) = .ok (n, tail ++ more) := by
  induction fuel generalizing fuel' acc text with
  | zero => cases h
  | succ fuel ih =>
      obtain ⟨fuel', rfl⟩ := Nat.exists_eq_add_of_le' (Nat.le_trans (Nat.le_add_left 1 fuel) hfuel)
      cases text with
      | nil => cases h
      | cons c rest =>
          simp only [bracedHexDigits, List.cons_append, skipBlank_false] at h ⊢
          split at h
          next hclose =>
            rw [if_pos hclose]
            cases acc with
            | none => cases h
            | some n =>
                cases h
                rfl
          next hclose =>
            rw [if_neg hclose]
            split at h
            next d hd => exact ih h (by omega)
            next => cases h

theorem hexEscape_append {count : Nat} {read : Char × Bool}
    (h : hexEscape false (count + 1) text = .ok (read, tail)) :
    hexEscape false (count + 1) (text ++ more) = .ok (read, tail ++ more) := by
  have hchar : ∀ {n : Nat} {isFixed : Bool} {rest : List Char},
      (if n.isValidChar then (pure ((Char.ofNat n, isFixed), rest) : Except Error _)
        else throw .badEscape) = .ok (read, tail) →
      (if n.isValidChar then (pure ((Char.ofNat n, isFixed), rest ++ more) : Except Error _)
        else throw .badEscape) = .ok (read, tail ++ more) := by
    intro n isFixed rest h
    split at h
    next hvalid =>
      cases h
      rw [if_pos hvalid]
      rfl
    next => cases h
  cases text with
  | nil => cases h
  | cons c rest =>
      unfold hexEscape at h ⊢
      simp only [skipBlank_false, List.cons_append] at h ⊢
      split at h
      next hbrace =>
        obtain ⟨rfl, rfl⟩ := List.cons.inj hbrace
        obtain ⟨⟨n, behind⟩, hdigits, h⟩ := bind_eq_ok.mp h
        exact bind_eq_ok.mpr ⟨_, bracedHexDigits_append hdigits (by simp), hchar h⟩
      next hbrace =>
        obtain ⟨⟨n, behind⟩, hdigits, h⟩ := bind_eq_ok.mp h
        have hdigits := @hexDigits_append _ _ more _ _ _ hdigits
        rw [List.cons_append] at hdigits
        split
        next hbrace' => simp_all
        next => exact bind_eq_ok.mpr ⟨_, hdigits, hchar h⟩

theorem propertyText_append {fuel fuel' : Nat} {name : List Char}
    (h : propertyText false fuel text = .ok (name, tail)) (hfuel : fuel ≤ fuel') :
    propertyText false fuel' (text ++ more) = .ok (name, tail ++ more) := by
  induction fuel generalizing fuel' text name with
  | zero => cases h
  | succ fuel ih =>
      obtain ⟨fuel', rfl⟩ := Nat.exists_eq_add_of_le' (Nat.le_trans (Nat.le_add_left 1 fuel) hfuel)
      cases text with
      | nil => cases h
      | cons c rest =>
          simp only [propertyText, List.cons_append, skipBlank_false] at h ⊢
          split at h
          next hclose =>
            cases h
            rw [if_pos hclose]
          next hclose =>
            obtain ⟨⟨name', rest'⟩, hread, h⟩ := bind_eq_ok.mp h
            cases h
            rw [if_neg hclose]
            exact bind_eq_ok.mpr ⟨_, ih hread (by omega), rfl⟩

theorem property_append {negated : Bool} {read : PropertyName × Bool}
    (h : property false negated text = .ok (read, tail)) :
    property false negated (text ++ more) = .ok (read, tail ++ more) := by
  cases text with
  | nil => cases h
  | cons c rest =>
      simp only [property, List.cons_append, skipBlank_false] at h ⊢
      split at h
      next hbrace =>
        obtain ⟨⟨name, rest'⟩, hread, h⟩ := bind_eq_ok.mp h
        cases h
        rw [if_pos hbrace]
        exact bind_eq_ok.mpr ⟨_, propertyText_append hread (by simp), rfl⟩
      next hbrace =>
        rw [if_neg hbrace]
        split at h
        next => cases h
        next hslash =>
          cases h
          rw [if_neg hslash]

/-- A primitive that is no condition on a position. -/
def Primitive.Consumes : Primitive → Prop
  | .assertion _ => False
  | _ => True

/-- An escape that stands for characters is read alike in front of more text. -/
theorem escape_append {item : Primitive} (h : escape false text = .ok (item, tail))
    (hitem : item.Consumes) : escape false (text ++ more) = .ok (item, tail ++ more) := by
  cases text with
  | nil => cases h
  | cons c rest =>
      rw [List.cons_append]
      unfold escape at h ⊢
      dsimp only at h ⊢
      split at h
      case h_1 | h_2 | h_3 =>
        obtain ⟨⟨⟨d, isFixed⟩, rest'⟩, hread, h⟩ := bind_eq_ok.mp h
        cases h
        exact bind_eq_ok.mpr ⟨_, hexEscape_append hread, rfl⟩
      case h_4 | h_5 =>
        obtain ⟨⟨⟨name, negated⟩, rest'⟩, hread, h⟩ := bind_eq_ok.mp h
        cases h
        exact bind_eq_ok.mpr ⟨_, property_append hread, rfl⟩
      case h_20 =>
        obtain ⟨⟨kind, rest'⟩, -, h⟩ := bind_eq_ok.mp h
        cases h
        exact hitem.elim
      case h_24 =>
        split at h
        next hself =>
          cases h
          simp [*]
        next => cases h
      all_goals
        cases h
        rfl

theorem splitAtChar_append {a : Char} {front back : List Char}
    (h : splitAtChar a text = some (front, back)) :
    splitAtChar a (text ++ more) = some (front, back ++ more) := by
  induction text generalizing front with
  | nil => cases h
  | cons c rest ih =>
      simp only [splitAtChar, List.cons_append] at h ⊢
      split at h
      next heq =>
        cases h
        rw [if_pos heq]
      next hne =>
        obtain ⟨⟨front', back'⟩, hsplit, hparts⟩ := Option.map_eq_some_iff.mp h
        cases hparts
        rw [if_neg hne, ih hsplit]
        rfl

theorem splitAtChar_append_of_eq_none {a : Char} (h : splitAtChar a text = none) :
    splitAtChar a (text ++ more) =
      (splitAtChar a more).map fun parts => (text ++ parts.1, parts.2) := by
  induction text with
  | nil => simp
  | cons c rest ih =>
      simp only [splitAtChar, List.cons_append] at h ⊢
      split at h
      next => cases h
      next hne =>
        rw [if_neg hne, ih (Option.map_eq_none_iff.mp h), Option.map_map]
        rfl

theorem posix?_eq_none {name : List Char} (h : ')' ∈ name) :
    posix? (String.ofList name) = none := by
  unfold posix?
  split
  case h_15 => rfl
  all_goals
    next heq =>
      have hname := congrArg String.toList heq
      rw [String.toList_ofList] at hname
      rw [hname] at h
      revert h
      decide

/-- The named class that a text behind a colon, and perhaps a negation, spells. -/
def posixNamed? (negated : Bool) (text : List Char) : Option (SetAst × List Char) :=
  match splitAtChar ':' text with
  | some (name, ']' :: after) =>
      (posix? (String.ofList name)).map fun kind => (.posix kind negated, after)
  | _ => none

theorem posixItem?_colon (h : ∀ rest, text ≠ '^' :: rest) :
    posixItem? (':' :: text) = posixNamed? false text := by
  -- `h` rules the sign out when the match on the text is simplified
  simp only [posixItem?]
  rfl

theorem posixNamed?_append (negated : Bool) (text more : List Char) :
    posixNamed? negated (text ++ ')' :: more) =
      (posixNamed? negated text).map fun read => (read.1, read.2 ++ ')' :: more) := by
  unfold posixNamed?
  cases hsplit : splitAtChar ':' text with
  | none =>
      -- a colon further on would end a name that holds the parenthesis
      rw [splitAtChar_append_of_eq_none hsplit]
      cases hmore : splitAtChar ':' (')' :: more) with
      | none => rfl
      | some parts =>
          obtain ⟨front, back⟩ := parts
          have hname : ')' ∈ text ++ front := by
            simp only [splitAtChar] at hmore
            rw [if_neg (by decide)] at hmore
            obtain ⟨parts, -, hparts⟩ := Option.map_eq_some_iff.mp hmore
            cases hparts
            simp
          dsimp only [Option.map_some, Option.map_none]
          split
          next heq =>
            cases heq
            rw [posix?_eq_none hname]
            rfl
          next => rfl
  | some parts =>
      obtain ⟨name, after⟩ := parts
      rw [splitAtChar_append hsplit]
      cases after with
      | nil => rfl
      | cons c after =>
          by_cases hc : c = ']'
          · subst hc
            simp [Option.map_map, Function.comp_def]
          · simp [hc]

/-- Whether a bracket opens a named class is settled before a closing parenthesis. -/
theorem posixItem?_append (text more : List Char) :
    posixItem? (text ++ ')' :: more) =
      (posixItem? text).map fun read => (read.1, read.2 ++ ')' :: more) := by
  cases text with
  | nil => rfl
  | cons c rest =>
      by_cases hc : c = ':'
      · subst hc
        cases rest with
        | nil => exact posixNamed?_append false [] more
        | cons d rest =>
            by_cases hd : d = '^'
            · subst hd
              exact posixNamed?_append true rest more
            · rw [List.cons_append, posixItem?_colon (by simp [hd]),
                posixItem?_colon (by simp [hd]), posixNamed?_append]
      · simp [posixItem?, hc]

theorem setPrimitive_append {item : Primitive} (h : setPrimitive false text = .ok (item, tail))
    (hitem : item.Consumes) : setPrimitive false (text ++ more) = .ok (item, tail ++ more) := by
  cases text with
  | nil => cases h
  | cons c rest =>
      by_cases hc : c = '\\'
      · subst hc
        exact escape_append h hitem
      · simp only [setPrimitive, List.cons_append] at h ⊢
        cases h
        rfl

theorem setItem_consumes {item : Primitive} {set : SetAst} (h : setItem item = .ok set) :
    item.Consumes := by
  cases item with
  | assertion => cases h
  | _ => trivial

theorem setRange_consumes {low high : Primitive} {set : SetAst}
    (h : setRange low high = .ok set) : low.Consumes ∧ high.Consumes := by
  unfold setRange at h
  split at h
  next => exact ⟨trivial, trivial⟩
  next => cases h

theorem startsRange_append {text : List Char} (h : text ≠ []) (more : List Char) :
    startsRange false (text ++ more) = startsRange false text := by
  cases text with
  | nil => exact absurd rfl h
  | cons c rest =>
      unfold startsRange
      simp only [skipBlank_false, List.cons_append]
      split <;> simp_all

theorem setMember_append {item : SetAst} (h : setMember false text = .ok (item, tail)) :
    setMember false (text ++ more) = .ok (item, tail ++ more) := by
  unfold setMember at h ⊢
  obtain ⟨⟨low, rest⟩, hlow, h⟩ := bind_eq_ok.mp h
  simp only [skipBlank_false] at h
  split at h
  next => cases h
  next after =>
    have hafter : after ≠ [] := by
      rintro rfl
      cases h
    split at h
    next hrange =>
      obtain ⟨⟨high, rest'⟩, hhigh, h⟩ := bind_eq_ok.mp h
      obtain ⟨range, hset, h⟩ := bind_eq_ok.mp h
      cases h
      obtain ⟨hlowc, hhighc⟩ := setRange_consumes hset
      refine bind_eq_ok.mpr ⟨_, setPrimitive_append hlow hlowc, ?_⟩
      simp only [skipBlank_false, List.cons_append, startsRange_append hafter, if_pos hrange]
      exact bind_eq_ok.mpr ⟨_, setPrimitive_append hhigh hhighc, bind_eq_ok.mpr ⟨_, hset, rfl⟩⟩
    next hrange =>
      obtain ⟨set, hitem, h⟩ := bind_eq_ok.mp h
      cases h
      refine bind_eq_ok.mpr ⟨_, setPrimitive_append hlow (setItem_consumes hitem), ?_⟩
      simp only [skipBlank_false, List.cons_append, startsRange_append hafter, hrange]
      exact bind_eq_ok.mpr ⟨_, hitem, rfl⟩
  next rest hnil hhyphen =>
    obtain ⟨set, hitem, h⟩ := bind_eq_ok.mp h
    cases h
    refine bind_eq_ok.mpr ⟨_, setPrimitive_append hlow (setItem_consumes hitem), ?_⟩
    simp only [skipBlank_false]
    obtain ⟨c, rest', rfl⟩ := List.exists_cons_of_ne_nil hnil
    split
    next heq => cases heq
    next heq =>
      cases heq
      exact absurd rfl (hhyphen _)
    next => exact bind_eq_ok.mpr ⟨_, hitem, rfl⟩

theorem leadingHyphens_append {fuel fuel' : Nat} {items items' : SetAst}
    (h : leadingHyphens false fuel items text = (items', tail)) (htail : tail ≠ [])
    (hlength : text.length ≤ fuel) (hfuel : fuel ≤ fuel') :
    leadingHyphens false fuel' items (text ++ more) = (items', tail ++ more) := by
  induction fuel generalizing fuel' items text with
  | zero =>
      obtain rfl := List.length_eq_zero_iff.mp (Nat.le_zero.mp hlength)
      cases h
      exact absurd rfl htail
  | succ fuel ih =>
      obtain ⟨fuel', rfl⟩ := Nat.exists_eq_add_of_le' (Nat.le_trans (Nat.le_add_left 1 fuel) hfuel)
      cases text with
      | nil =>
          cases h
          exact absurd rfl htail
      | cons c rest =>
          simp only [leadingHyphens, skipBlank_false, List.cons_append] at h ⊢
          split at h
          next heq =>
            cases heq
            exact ih h (by simpa using hlength) (by omega)
          next hne =>
            cases h
            split
            next heq =>
              cases heq
              exact absurd rfl (hne _)
            next => rfl

/-- The front of a set behind its negation. -/
def setStart (negated : Bool) (text : List Char) : Bool × SetAst × List Char :=
  let (items, rest) := leadingHyphens false text.length .empty text
  match items, rest with
  | .empty, ']' :: rest => (negated, .literal ']' false, rest)
  | _, _ => (negated, items, rest)

theorem setFront_eq_setStart (h : ∀ rest, text ≠ '^' :: rest) :
    setFront false text = setStart false text := by
  unfold setFront
  cases text with
  | nil => rfl
  | cons c rest =>
      have hc : c ≠ '^' := by
        rintro rfl
        exact h rest rfl
      simp only [skipBlank_false]
      rfl

theorem setStart_append {negated negated' : Bool} {items : SetAst}
    (h : setStart negated text = (negated', items, tail)) (htail : tail ≠ []) :
    setStart negated (text ++ more) = (negated', items, tail ++ more) := by
  unfold setStart at h ⊢
  rcases hlead : leadingHyphens false text.length .empty text with ⟨items', rest⟩
  have hrest : rest ≠ [] := by
    rintro rfl
    simp only [hlead, Prod.mk.injEq] at h
    exact htail h.2.2.symm
  rw [leadingHyphens_append hlead hrest (Nat.le_refl _) (by simp)]
  rw [hlead] at h
  dsimp only at h ⊢
  split at h
  next =>
    cases h
    rfl
  next hother =>
    cases h
    obtain ⟨c, rest', rfl⟩ := List.exists_cons_of_ne_nil hrest
    split
    next heq =>
      cases heq
      exact absurd rfl (hother _ rfl)
    next => rfl

theorem setFront_append {negated : Bool} {items : SetAst}
    (h : setFront false text = (negated, items, tail)) (htail : tail ≠ []) :
    setFront false (text ++ more) = (negated, items, tail ++ more) := by
  cases text with
  | nil =>
      cases h
      exact absurd rfl htail
  | cons c rest =>
      by_cases hc : c = '^'
      · subst hc
        exact @setStart_append rest tail more true _ _ h htail
      · rw [setFront_eq_setStart (by simp [hc])] at h
        rw [List.cons_append, setFront_eq_setStart (by simp [hc])]
        exact setStart_append h htail

theorem append_ne_cons {a : Char} (h : ∀ rest, text ≠ a :: rest) (hnil : text ≠ [])
    (rest : List Char) : text ++ more ≠ a :: rest := by
  intro heq
  obtain ⟨c, rest', rfl⟩ := List.exists_cons_of_ne_nil hnil
  injection heq with hc
  exact h rest' (by rw [hc])

/-- A parenthesis behind a text does not complete a pair. -/
theorem append_ne_pair {a : Char} (ha : ')' ≠ a) (h : ∀ rest, text ≠ a :: a :: rest)
    (hnil : text ≠ []) (rest : List Char) : text ++ ')' :: more ≠ a :: a :: rest := by
  intro heq
  match text, h, hnil with
  | [c], _, _ =>
      injection heq with _ heq
      injection heq with hparen
      exact ha hparen
  | c :: d :: rest', h, _ =>
      injection heq with hc heq
      injection heq with hd
      exact h rest' (by rw [hc, hd])

/-- A set is read alike in front of a closing parenthesis, and with more fuel. -/
theorem setBody_append (fuel : Nat) :
    (∀ {fuel' : Nat} {pending : Option (SetOp × SetAst)} {items set : SetAst}
      {text tail more : List Char}, fuel ≤ fuel' →
      setBody false fuel pending items text = .ok (set, tail) →
      setBody false fuel' pending items (text ++ ')' :: more) = .ok (set, tail ++ ')' :: more)) ∧
    (∀ {fuel' : Nat} {read : Bool × SetAst} {text tail more : List Char}, fuel ≤ fuel' →
      openedSet false fuel text = .ok (read, tail) →
      openedSet false fuel' (text ++ ')' :: more) = .ok (read, tail ++ ')' :: more)) := by
  induction fuel with
  | zero => exact ⟨nofun, nofun⟩
  | succ fuel ih =>
      obtain ⟨ihbody, ihopened⟩ := ih
      constructor
      · intro fuel' pending items set text tail more hfuel h
        obtain ⟨fuel', rfl⟩ :=
          Nat.exists_eq_add_of_le' (Nat.le_trans (Nat.le_add_left 1 fuel) hfuel)
        have hfuel' : fuel ≤ fuel' := by omega
        simp only [setBody, skipBlank_false] at h ⊢
        split at h
        next => cases h
        next rest =>
          cases h
          rfl
        next rest => exact ihbody hfuel' h
        next rest => exact ihbody hfuel' h
        next rest => exact ihbody hfuel' h
        next rest =>
          simp only [List.cons_append, posixItem?_append]
          cases hposix : posixItem? rest with
          | some read =>
              rw [hposix] at h
              exact ihbody hfuel' h
          | none =>
              rw [hposix] at h
              obtain ⟨⟨⟨negated, inner⟩, rest'⟩, hopened, h⟩ := bind_eq_ok.mp h
              exact bind_eq_ok.mpr ⟨_, ihopened hfuel' hopened, ihbody hfuel' h⟩
        next rest hnil hclose hand hminus htilde hopen =>
          obtain ⟨⟨item, rest'⟩, hmember, h⟩ := bind_eq_ok.mp h
          -- no other case applies just because a parenthesis follows
          split
          next heq => simp at heq
          next heq => exact absurd heq (append_ne_cons hclose hnil _)
          next heq => exact absurd heq (append_ne_pair (by decide) hand hnil _)
          next heq => exact absurd heq (append_ne_pair (by decide) hminus hnil _)
          next heq => exact absurd heq (append_ne_pair (by decide) htilde hnil _)
          next heq => exact absurd heq (append_ne_cons hopen hnil _)
          next => exact bind_eq_ok.mpr ⟨_, setMember_append hmember, ihbody hfuel' h⟩
      · intro fuel' read text tail more hfuel h
        obtain ⟨fuel', rfl⟩ :=
          Nat.exists_eq_add_of_le' (Nat.le_trans (Nat.le_add_left 1 fuel) hfuel)
        have hfuel' : fuel ≤ fuel' := by omega
        simp only [openedSet] at h ⊢
        rcases hfront : setFront false text with ⟨negated, items, rest⟩
        rw [hfront] at h
        obtain ⟨⟨inner, rest'⟩, hbody, h⟩ := bind_eq_ok.mp h
        cases h
        -- a set cannot end with its front, so there is more to read behind that
        have hrest : rest ≠ [] := by
          rintro rfl
          cases fuel <;> cases hbody
        rw [setFront_append hfront hrest]
        exact bind_eq_ok.mpr ⟨_, ihbody hfuel' hbody, rfl⟩

end Waymark.Pattern.Read
