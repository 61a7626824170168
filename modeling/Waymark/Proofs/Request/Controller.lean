import Waymark.Proofs.Text.Case
import Waymark.Request.Controller

/-! # Names of controllers inside modules

A name leads into a module if it ends in the word for a module, the name of one and the name of a
controller, with hyphens between them. It may do so in several ways, since the name of a module
may have hyphens in it: the way that begins first is taken, and the last hyphen separates.
-/

namespace Waymark.Request

open Text (SameUpToCase)

/-- Names of a module and of a controller in it. The name of the controller has no hyphens. -/
structure AreModuleNames (moduleName inner : List Char) : Prop where
  module_nonempty : moduleName ≠ []
  module_chars : ∀ c ∈ moduleName, isWordChar c = true ∨ c = '-'
  inner_nonempty : inner ≠ []
  inner_chars : ∀ c ∈ inner, isWordChar c = true

/-- A name ends in a module and a controller of it, behind some text. -/
structure InModule (name before moduleName inner : List Char) : Prop where
  spelled : ∃ marker, SameUpToCase marker "module-".toList ∧
    name = before ++ (marker ++ (moduleName ++ '-' :: inner))
  names : AreModuleNames moduleName inner

/-- A name ends in a module and a controller of it, and in no such way that begins earlier. -/
def LeadsIntoModule (name moduleName inner : List Char) : Prop :=
  ∃ before, InModule name before moduleName inner ∧
    ∀ earlier other inside, InModule name earlier other inside → before.length ≤ earlier.length

theorem AreModuleNames.hyphen_not_mem {moduleName inner : List Char}
    (h : AreModuleNames moduleName inner) : '-' ∉ inner := by
  intro hmem
  have hword : isWordChar '-' = false := rfl
  cases (h.inner_chars '-' hmem).symm.trans hword

/-! ## The last hyphen -/

theorem splitLastHyphen_of_not_mem {text : List Char} (h : '-' ∉ text) :
    splitLastHyphen text = none := by
  induction text with
  | nil => rfl
  | cons c rest ih =>
      rw [List.mem_cons, not_or] at h
      rw [splitLastHyphen, ih h.2]
      exact if_neg (Ne.symm h.1)

theorem splitLastHyphen_append (before : List Char) {after : List Char} (h : '-' ∉ after) :
    splitLastHyphen (before ++ '-' :: after) = some (before, after) := by
  induction before with
  | nil =>
      rw [List.nil_append, splitLastHyphen, splitLastHyphen_of_not_mem h]
      exact if_pos rfl
  | cons c before ih => rw [List.cons_append, splitLastHyphen, ih]

/-- A text is split where a hyphen stands and no hyphen follows. -/
theorem splitLastHyphen_eq_some_iff {text before after : List Char} :
    splitLastHyphen text = some (before, after) ↔
      text = before ++ '-' :: after ∧ '-' ∉ after := by
  constructor
  · intro h
    by_cases hmem : '-' ∈ text
    · -- the last hyphen of the text is the first one of the reversed text
      obtain ⟨back, front, hreverse, hback⟩ :=
        List.eq_append_cons_of_mem (List.mem_reverse.mpr hmem)
      have htext : text = front.reverse ++ '-' :: back.reverse := by
        rw [← List.reverse_reverse text, hreverse]
        simp
      have hback : '-' ∉ back.reverse := mt List.mem_reverse.mp hback
      rw [htext, splitLastHyphen_append _ hback] at h
      cases h
      exact ⟨htext, hback⟩
    · rw [splitLastHyphen_of_not_mem hmem] at h
      cases h
  · rintro ⟨rfl, hafter⟩
    exact splitLastHyphen_append before hafter

/-! ## Names at a position -/

theorem moduleNames?_eq_some_iff {text moduleName inner : List Char} :
    moduleNames? text = some (moduleName, inner) ↔
      text = moduleName ++ '-' :: inner ∧ AreModuleNames moduleName inner := by
  constructor
  · intro h
    unfold moduleNames? at h
    split at h
    next hall =>
      split at h
      next c before d after hsplit =>
        cases h
        obtain ⟨rfl, hafter⟩ := splitLastHyphen_eq_some_iff.mp hsplit
        simp only [List.all_eq_true, Bool.or_eq_true, beq_iff_eq] at hall
        refine ⟨rfl, List.cons_ne_nil c before, fun x hx => ?_, List.cons_ne_nil d after,
          fun x hx => ?_⟩
        · exact hall x (List.mem_append_left _ hx)
        · refine (hall x (List.mem_append_right _ (List.mem_cons_of_mem _ hx))).resolve_right ?_
          rintro rfl
          exact hafter hx
      next => cases h
    next => cases h
  · rintro ⟨rfl, hnames⟩
    have hall : (moduleName ++ '-' :: inner).all (fun c => isWordChar c || c == '-') = true := by
      simp only [List.all_append, List.all_cons, Bool.and_eq_true, List.all_eq_true,
        Bool.or_eq_true, beq_iff_eq]
      exact ⟨hnames.module_chars, .inr trivial, fun c hc => .inl (hnames.inner_chars c hc)⟩
    unfold moduleNames?
    rw [if_pos hall, splitLastHyphen_append moduleName hnames.hyphen_not_mem]
    obtain ⟨c, before, rfl⟩ := List.exists_cons_of_ne_nil hnames.module_nonempty
    obtain ⟨d, after, rfl⟩ := List.exists_cons_of_ne_nil hnames.inner_nonempty
    rfl

/-- What stands at the front of a text is read there. -/
theorem atFront_iff {text moduleName inner : List Char} :
    (Text.dropLeading? "module-".toList text).bind moduleNames? = some (moduleName, inner) ↔
      InModule text [] moduleName inner := by
  rw [Option.bind_eq_some_iff]
  constructor
  · rintro ⟨rest, hdrop, hnames⟩
    obtain ⟨marker, rfl, hmarker⟩ := Text.dropLeading?_eq_some_iff.mp hdrop
    obtain ⟨rfl, hvalid⟩ := moduleNames?_eq_some_iff.mp hnames
    exact ⟨⟨marker, hmarker, rfl⟩, hvalid⟩
  · rintro ⟨⟨marker, hmarker, rfl⟩, hnames⟩
    exact ⟨_, Text.dropLeading?_eq_some_iff.mpr ⟨marker, rfl, hmarker⟩,
      moduleNames?_eq_some_iff.mpr ⟨rfl, hnames⟩⟩

theorem inModule_cons {c d : Char} {text before moduleName inner : List Char} :
    InModule (c :: text) (d :: before) moduleName inner ↔
      c = d ∧ InModule text before moduleName inner := by
  constructor
  · rintro ⟨⟨marker, hmarker, htext⟩, hnames⟩
    obtain ⟨rfl, hrest⟩ := List.cons.inj htext
    exact ⟨rfl, ⟨marker, hmarker, hrest⟩, hnames⟩
  · rintro ⟨rfl, ⟨marker, hmarker, rfl⟩, hnames⟩
    exact ⟨⟨marker, hmarker, rfl⟩, hnames⟩

theorem not_inModule_nil {before moduleName inner : List Char} :
    ¬ InModule [] before moduleName inner := by
  rintro ⟨⟨marker, -, hnil⟩, -⟩
  simp at hnil

/-! ## The first position -/

theorem splitModule?_cons (c : Char) (rest : List Char) :
    splitModule? (c :: rest) =
      ((Text.dropLeading? "module-".toList (c :: rest)).bind moduleNames?).or
        (splitModule? rest) := by
  rw [splitModule?]
  cases (Text.dropLeading? "module-".toList (c :: rest)).bind moduleNames? <;> rfl

/-- A module and a controller of it are split off a name exactly if the name leads into them. -/
theorem splitModule?_eq_some_iff {name moduleName inner : List Char} :
    splitModule? name = some (moduleName, inner) ↔ LeadsIntoModule name moduleName inner := by
  induction name with
  | nil =>
      constructor
      · nofun
      · rintro ⟨before, hin, -⟩
        exact absurd hin not_inModule_nil
  | cons c rest ih =>
      rw [splitModule?_cons]
      cases hfront : (Text.dropLeading? "module-".toList (c :: rest)).bind moduleNames? with
      | some names =>
          have hnames : InModule (c :: rest) [] names.1 names.2 := atFront_iff.mp hfront
          constructor
          · rintro ⟨⟩
            exact ⟨[], hnames, fun _ _ _ _ => Nat.zero_le _⟩
          · rintro ⟨before, hin, hfirst⟩
            obtain rfl : before = [] := List.eq_nil_of_length_eq_zero
              (Nat.le_zero.mp (hfirst [] _ _ hnames))
            exact hfront.symm.trans (atFront_iff.mpr hin)
      | none =>
          -- all ways stand behind the first character
          have hnone : ∀ {other inside}, ¬ InModule (c :: rest) [] other inside := by
            intro other inside hin
            cases hfront.symm.trans (atFront_iff.mpr hin)
          rw [Option.none_or, ih]
          constructor
          · rintro ⟨before, hin, hfirst⟩
            refine ⟨c :: before, inModule_cons.mpr ⟨rfl, hin⟩, fun earlier other inside hother => ?_⟩
            cases earlier with
            | nil => exact absurd hother hnone
            | cons d earlier =>
                exact Nat.succ_le_succ (hfirst _ _ _ (inModule_cons.mp hother).2)
          · rintro ⟨before, hin, hfirst⟩
            cases before with
            | nil => exact absurd hin hnone
            | cons d before =>
                obtain ⟨-, hin⟩ := inModule_cons.mp hin
                refine ⟨before, hin, fun earlier other inside hother => ?_⟩
                exact Nat.le_of_succ_le_succ
                  (hfirst (c :: earlier) other inside (inModule_cons.mpr ⟨rfl, hother⟩))

/-- Nothing is split off a name exactly if it ends in no module and controller. -/
theorem splitModule?_eq_none_iff {name : List Char} :
    splitModule? name = none ↔
      ∀ before moduleName inner, ¬ InModule name before moduleName inner := by
  induction name with
  | nil => exact ⟨fun _ _ _ _ => not_inModule_nil, fun _ => rfl⟩
  | cons c rest ih =>
      rw [splitModule?_cons, Option.or_eq_none_iff, ih]
      constructor
      · rintro ⟨hfront, hrest⟩ before moduleName inner hin
        cases before with
        | nil => cases hfront.symm.trans (atFront_iff.mpr hin)
        | cons d before => exact hrest before moduleName inner (inModule_cons.mp hin).2
      · intro hnone
        refine ⟨Option.eq_none_iff_forall_ne_some.mpr fun names hfront => ?_,
          fun before moduleName inner hin => ?_⟩
        · exact hnone [] _ _ (atFront_iff.mp hfront)
        · exact hnone (c :: before) moduleName inner (inModule_cons.mpr ⟨rfl, hin⟩)

/-- The first way counts, whose module has hyphens in its name. -/
example : splitModule? "old-Module-module-blog-post_list".toList =
    some ("module-blog".toList, "post_list".toList) := by
  decide

/-! ## Hyphens -/

theorem controllerName_eq_empty_iff {name : String} :
    controllerName name = "" ↔ ∀ c ∈ name.toList, c = '-' := by
  unfold controllerName
  rw [String.ofList_eq_empty_iff, List.filter_eq_nil_iff]
  simp

theorem hyphen_not_mem_controllerName (name : String) : '-' ∉ (controllerName name).toList := by
  unfold controllerName
  rw [String.toList_ofList, List.mem_filter]
  simp

end Waymark.Request
