import Waymark.Proofs.Pattern.Matches
import Waymark.Proofs.Pattern.Meaning
import Waymark.Proofs.Request.Controller
import Waymark.Proofs.Unicode.Case

/-! # The module form as a pattern

The form of names that lead into a module can be told by a pattern that is not anchored at the
front, closes its characters under case and repeats a class with the separator in it. There is one
way through it from a position at most, since the last hyphen separates the names. So what it finds
is the form of the longest ending that has one, which is what `splitModule?` reads.
-/

namespace Waymark.Request

open Pattern
open Text (SameUpToCase)
open Unicode (toNat_lt_of_le toNat_lt_of_toLower)

/-! ## The pattern -/

/-- A pattern for the names of a module and of a controller in it at the end of a text, with a
group for each. -/
def moduleForm : String := "(?i)module-(?P<_>[a-z0-9_-]+)-(?P<__>[a-z0-9_]+)$"

/-- A fixed text as a tree, in front of a tree. -/
def spelledAst (word : List Char) (ast : Ast) : Ast :=
  word.foldr (fun c ast => .cat (.literal c false) ast) ast

/-- The characters of names as a tree. -/
def nameSetAst : SetAst :=
  .union (.union (.range 'a' 'z' false false) (.range '0' '9' false false)) (.literal '_' false)

/-- One or more characters of a class in a group, as a tree. -/
def nameOfAst (group : String) (set : SetAst) : Ast :=
  .group (.capture (some group)) (.repeated (.bracketed false set) 1 none true)

/-- The tree of the pattern. -/
def moduleAst : Ast :=
  .cat (.flags [(.caseInsensitive, true)]) <| spelledAst "module-".toList <|
    .cat (nameOfAst "_" (.union nameSetAst (.literal '-' false))) <| spelledAst ['-'] <|
      .cat (nameOfAst "__" nameSetAst) (.assertion .lineEnd)

/-- A fixed text in either case, in front of a pattern. -/
def spelled (word : List Char) (e : Expr) : Expr :=
  word.foldr (fun c e => .cat (.one (.folded (.only c))) e) e

/-- The characters of names, in small letters. -/
def nameSet : CharSet := .union (.union (.range 'a' 'z') (.range '0' '9')) (.only '_')

/-- One or more characters of a set in either case, in a group. -/
def nameOf (group : String) (set : CharSet) : Expr :=
  .capture group (.repeated (.one (.folded set)) 1 none true)

/-- The pattern of the names at the end of a text. -/
def namesExpr : Expr :=
  .cat (nameOf "_" (.union nameSet (.only '-')))
    (spelled ['-'] (.cat (nameOf "__" nameSet) (.anchor .textEnd)))

/-- The pattern that the text spells. -/
def moduleExpr : Expr := .cat .empty (spelled "module-".toList namesExpr)

theorem compile_moduleForm : Regex.compile moduleForm = .ok ⟨moduleForm, moduleExpr⟩ := by
  have hast : Ast.ofText moduleForm.toList = .ok moduleAst := by decide +kernel
  have hexpr : Expr.elaborate .initial moduleAst =
      .ok (moduleExpr, { Flags.initial with caseInsensitive := true }) := rfl
  exact bind_eq_ok.mpr ⟨_, hast, bind_eq_ok.mpr ⟨_, hexpr, rfl⟩⟩

/-! ## The sets of characters -/

variable {c d : Char}

theorem toNat_lt_of_nameSet (h : nameSet.contains c = true) : c.toNat < 0x80 := by
  simp only [nameSet, CharSet.contains, Bool.or_eq_true, Bool.and_eq_true, decide_eq_true_eq,
    beq_iff_eq] at h
  rcases h with (⟨-, h⟩ | ⟨-, h⟩) | rfl
  · exact toNat_lt_of_le h (by decide)
  · exact toNat_lt_of_le h (by decide)
  · decide

theorem toNat_lt_of_isAlphanum (h : c.isAlphanum = true) : c.toNat < 0x80 := by
  unfold Char.isAlphanum Char.isAlpha Char.isUpper Char.isLower Char.isDigit at h
  simp only [Bool.or_eq_true, Bool.and_eq_true, decide_eq_true_eq] at h
  rcases h with (⟨-, h⟩ | ⟨-, h⟩) | ⟨-, h⟩
  · exact toNat_lt_of_le (d := 'Z') h (by decide)
  · exact toNat_lt_of_le (d := 'z') h (by decide)
  · exact toNat_lt_of_le (d := '9') h (by decide)

theorem ascii_or_of_isWordChar (h : isWordChar c = true) :
    c.toNat < 0x80 ∨ c = '\u017f' ∨ c = '\u212a' := by
  simp only [isWordChar, Bool.or_eq_true, beq_iff_eq] at h
  rcases h with ((h | rfl) | h) | h
  · exact .inl (toNat_lt_of_isAlphanum h)
  · exact .inl (by decide)
  · exact .inr (.inl h)
  · exact .inr (.inr h)

theorem contains_name (c : Char) : (CharSet.folded nameSet).contains c = isWordChar c :=
  CharSet.contains_folded_eq (fun _ => toNat_lt_of_nameSet) (fun _ => ascii_or_of_isWordChar)
    (by decide +kernel) (by decide +kernel) (by decide +kernel) c

theorem contains_nameOrHyphen (c : Char) :
    (CharSet.folded (.union nameSet (.only '-'))).contains c = (isWordChar c || c == '-') := by
  refine @CharSet.contains_folded_eq _ (fun c => isWordChar c || c == '-') ?_ ?_
    (by decide +kernel) (by decide +kernel) (by decide +kernel) c
  · intro c h
    rcases Bool.or_eq_true_iff.mp h with h | h
    · exact toNat_lt_of_nameSet h
    · rw [beq_iff_eq.mp h]
      decide
  · intro c h
    rcases Bool.or_eq_true_iff.mp h with h | h
    · exact ascii_or_of_isWordChar h
    · rw [beq_iff_eq.mp h]
      exact .inl (by decide)

theorem contains_letter (hd : d ∈ "module-".toList) (c : Char) :
    (CharSet.folded (.only d)).contains c = (c.toLower == d.toLower) := by
  -- `all` looks at the list alone, where a quantifier would be decided for every character
  have hall : "module-".toList.all (fun d => d.toLower == d && CharSet.isFoldOf Char.toLower d) =
      true := by
    decide +kernel
  have hboth := List.all_eq_true.mp hall d hd
  rw [Bool.and_eq_true, beq_iff_eq] at hboth
  rw [hboth.1]
  exact CharSet.contains_of_isFoldOf (fun _ h => .inl (toNat_lt_of_toLower h)) hboth.2 c

/-! ## The ways through the pattern -/

variable {word front rest text name moduleName inner : List Char} {e : Expr} {s t u : Thread}
  {group : String} {set : CharSet} {cursor : Cursor}

/-- A way through a fixed text in front of a pattern consumes the text in some case and goes on
through the pattern. -/
theorem of_steps_spelled (hword : word ⊆ "module-".toList) (hon : s.cursor.On text)
    (h : Expr.Steps (spelled word e) s u) :
    ∃ front t, SameUpToCase front word ∧ s.cursor.rest = front ++ t.cursor.rest ∧
      t.cursor.On text ∧ Expr.Steps e t u := by
  induction word generalizing s with
  | nil => exact ⟨[], s, .refl [], rfl, hon, h⟩
  | cons d word ih =>
      obtain ⟨hd, hword⟩ := List.cons_subset.mp hword
      cases h with
      | cat first h =>
          have honfirst := first.on hon
          cases first with
          | one step =>
              obtain ⟨c, rest, hrest, hc, rfl⟩ := Thread.advance?_eq_some_iff.mp step
              obtain ⟨front, t, hsame, hfront, ht, hsteps⟩ := ih hword honfirst h
              rw [contains_letter hd, beq_iff_eq] at hc
              refine ⟨c :: front, t, List.cons_eq_cons.mpr ⟨hc, hsame⟩, ?_, ht, hsteps⟩
              rw [hrest, List.cons_append, ← hfront]

theorem exists_steps_spelled (hword : word ⊆ "module-".toList) (hsame : SameUpToCase front word)
    (hrest : s.cursor.rest = front ++ rest)
    (h : ∀ t : Thread, t.cursor.rest = rest → ∃ u, Expr.Steps e t u) :
    ∃ u, Expr.Steps (spelled word e) s u := by
  induction word generalizing s front with
  | nil =>
      obtain rfl : front = [] := List.map_eq_nil_iff.mp hsame
      exact h s hrest
  | cons d word ih =>
      obtain ⟨hd, hword⟩ := List.cons_subset.mp hword
      cases front with
      | nil => cases hsame
      | cons c front =>
          obtain ⟨hc, hsame⟩ := List.cons.inj hsame
          have hcontains : (CharSet.folded (.only d)).contains c = true := by
            rw [contains_letter hd, beq_iff_eq]
            exact hc
          let next : Thread := ⟨⟨s.cursor.index + 1, some c, front ++ rest⟩, s.groups⟩
          have hstep : s.advance? _ = some next :=
            Thread.advance?_eq_some_iff.mpr ⟨c, front ++ rest, hrest, hcontains, rfl⟩
          have hnext : next.cursor.rest = front ++ rest := rfl
          obtain ⟨u, hu⟩ := ih hword hsame hnext
          exact ⟨u, .cat (.one hstep) hu⟩

theorem mem_language_nameOf : name ∈ (nameOf group set).language ↔
    name ≠ [] ∧ ∀ c ∈ name, (CharSet.folded set).contains c = true := by
  rw [← List.length_pos_iff]
  exact @Expr.mem_language_repeated_iff _ _ _ true

/-- The two groups stand for names of a module and of a controller in it. -/
theorem areModuleNames_iff : AreModuleNames moduleName inner ↔
    moduleName ∈ (nameOf "_" (.union nameSet (.only '-'))).language ∧
      inner ∈ (nameOf "__" nameSet).language := by
  simp only [mem_language_nameOf, contains_nameOrHyphen, contains_name, Bool.or_eq_true,
    beq_iff_eq]
  exact ⟨fun h => ⟨⟨h.module_nonempty, h.module_chars⟩, h.inner_nonempty, h.inner_chars⟩,
    fun ⟨⟨hmodule, hchars⟩, hinner, hchars'⟩ => ⟨hmodule, hchars, hinner, hchars'⟩⟩

theorem eq_hyphen {hyphen : List Char} (h : SameUpToCase hyphen ['-']) : hyphen = ['-'] := by
  obtain ⟨c, rfl, hc⟩ := List.map_eq_singleton_iff.mp h
  rw [Text.eq_of_toLower (by decide) hc]
  rfl

/-- A way through the pattern of the names leads to the end, and the groups hold the names. -/
theorem of_steps_names (hon : s.cursor.On text) (h : Expr.Steps namesExpr s u) :
    ∃ moduleName inner, s.cursor.rest = moduleName ++ '-' :: inner ∧
      AreModuleNames moduleName inner ∧ u.group? "_" = some moduleName ∧
      u.group? "__" = some inner := by
  obtain ⟨t, first, h⟩ := Expr.steps_cat_iff.mp h
  have ht := first.on hon
  obtain ⟨moduleName, hmodule, hrest, hgroup⟩ := first.captured rfl hon
  have hkept : u.group? "_" = t.group? "_" := h.group?_eq (by decide)
  obtain ⟨hyphen, v, hsame, hhyphen, hv, h⟩ := of_steps_spelled (by simp) ht h
  obtain rfl : hyphen = ['-'] := eq_hyphen hsame
  obtain ⟨second, hend⟩ := Expr.steps_atEnd_iff.mp h
  obtain ⟨inner, hinner, hlast, hgroup'⟩ := second.captured rfl hv
  rw [hend, List.append_nil] at hlast
  refine ⟨moduleName, inner, ?_, areModuleNames_iff.mpr ⟨hmodule, hinner⟩, hkept.trans hgroup,
    hgroup'⟩
  rw [hrest, hhyphen, hlast]
  rfl

theorem exists_steps_names (hnames : AreModuleNames moduleName inner)
    (hrest : s.cursor.rest = moduleName ++ '-' :: inner) : ∃ u, Expr.Steps namesExpr s u := by
  obtain ⟨hmodule, hinner⟩ := areModuleNames_iff.mp hnames
  obtain ⟨t, hfirst, ht⟩ := Expr.exists_steps hmodule hrest
  rw [← List.singleton_append] at ht
  obtain ⟨u, hu⟩ : ∃ u, Expr.Steps (spelled ['-'] (.cat (nameOf "__" nameSet) (.anchor .textEnd)))
      t u := by
    refine exists_steps_spelled (by simp) (.refl _) ht fun v hv => ?_
    rw [← List.append_nil inner] at hv
    obtain ⟨u, hlast, hu⟩ := Expr.exists_steps hinner hv
    exact ⟨u, Expr.steps_atEnd_iff.mpr ⟨hlast, hu⟩⟩
  exact ⟨u, .cat hfirst hu⟩

/-- A way through the whole pattern leads through the module form, and the groups hold the names. -/
theorem of_steps_moduleExpr (hon : cursor.On text) (h : Expr.Steps moduleExpr ⟨cursor, []⟩ t) :
    ∃ moduleName inner, InModule cursor.rest [] moduleName inner ∧
      t.group? "_" = some moduleName ∧ t.group? "__" = some inner := by
  cases h with
  | cat first h =>
      cases first with
      | empty =>
          obtain ⟨marker, v, hsame, hmarker, hv, h⟩ := of_steps_spelled (List.Subset.refl _) hon h
          obtain ⟨moduleName, inner, hrest, hnames, hgroups⟩ := of_steps_names hv h
          refine ⟨moduleName, inner, ⟨⟨marker, hsame, ?_⟩, hnames⟩, hgroups⟩
          rw [List.nil_append, ← hrest]
          exact hmarker

theorem exists_steps_moduleExpr (h : InModule cursor.rest [] moduleName inner) :
    ∃ t, Expr.Steps moduleExpr ⟨cursor, []⟩ t := by
  obtain ⟨⟨marker, hsame, hrest⟩, hnames⟩ := h
  have hstart : (Thread.mk cursor []).cursor.rest = marker ++ (moduleName ++ '-' :: inner) := hrest
  obtain ⟨t, ht⟩ := exists_steps_spelled (List.Subset.refl _) hsame hstart
    fun t => exists_steps_names hnames
  exact ⟨t, .cat (.empty _) ht⟩

/-! ## The search -/

/-- What stands at a position is what the preferred match there holds. -/
theorem matchAt?_moduleExpr (hon : cursor.On text) :
    (moduleExpr.matchAt? cursor).map (fun t => (t.group? "_", t.group? "__")) =
      ((Text.dropLeading? "module-".toList cursor.rest).bind moduleNames?).map
        fun found => (some found.1, some found.2) := by
  cases hmatch : moduleExpr.matchAt? cursor with
  | none =>
      have hnone : (Text.dropLeading? "module-".toList cursor.rest).bind moduleNames? = none := by
        refine Option.eq_none_iff_forall_ne_some.mpr fun found hfound => ?_
        obtain ⟨t, ht⟩ := exists_steps_moduleExpr (atFront_iff.mp hfound)
        obtain ⟨u, hu⟩ := Expr.exists_matchAt? hon ht
        cases hmatch.symm.trans hu
      rw [hnone]
      rfl
  | some t =>
      obtain ⟨moduleName, inner, hin, hmodule, hinner⟩ :=
        of_steps_moduleExpr hon (Expr.steps_of_matchAt? hon hmatch)
      rw [atFront_iff.mpr hin, Option.map_some, hmodule, hinner]
      rfl

/-- From any position on, the first match holds what is split off. -/
theorem findSome?_moduleExpr {index : Nat} {before : Option Char}
    (hon : Cursor.On text ⟨index, before, rest⟩) :
    ((Cursor.positions index before rest).findSome? moduleExpr.matchAt?).map
        (fun t => (t.group? "_", t.group? "__")) =
      (splitModule? rest).map fun found => (some found.1, some found.2) := by
  induction rest generalizing index before with
  | nil =>
      have hhere := matchAt?_moduleExpr hon
      rw [Cursor.positions, List.findSome?_singleton]
      exact hhere
  | cons c rest ih =>
      have hhere := matchAt?_moduleExpr hon
      rw [Cursor.positions, List.findSome?_cons, splitModule?_cons]
      cases hmatch : moduleExpr.matchAt? ⟨index, before, c :: rest⟩ with
      | none =>
          rw [hmatch, Option.map_none, eq_comm, Option.map_eq_none_iff] at hhere
          rw [hhere, Option.none_or]
          exact ih hon.next
      | some t =>
          rw [hmatch] at hhere
          obtain ⟨found, hfound, -⟩ := Option.map_eq_some_iff.mp hhere.symm
          rw [hfound] at hhere ⊢
          exact hhere

/-- The groups of the pattern hold what is split off a name. -/
theorem captures_moduleForm (source name : String) :
    (Regex.mk source moduleExpr).captures name = (splitModule? name.toList).map fun found =>
      [("_", String.ofList found.1), ("__", String.ofList found.2)] := by
  have hsearch := findSome?_moduleExpr (Cursor.start_on name.toList)
  change (moduleExpr.search name.toList).map _ = _ at hsearch
  change (moduleExpr.search name.toList).map _ = _
  cases hfound : splitModule? name.toList with
  | none =>
      rw [hfound, Option.map_none, Option.map_eq_none_iff] at hsearch
      rw [hsearch]
      rfl
  | some found =>
      rw [hfound, Option.map_some] at hsearch
      obtain ⟨t, ht, hgroups⟩ := Option.map_eq_some_iff.mp hsearch
      obtain ⟨hmodule, hinner⟩ := Prod.mk.inj hgroups
      have hnames : moduleExpr.groupNames = ["_", "__"] := by decide
      rw [ht, Option.map_some, hnames]
      simp [hmodule, hinner]

/-! ## The form -/

/-- A text is the word for a module in either case, the name of a module, a hyphen and the name of a
controller in it. -/
def HasModuleForm (text moduleName inner : List Char) : Prop := InModule text [] moduleName inner

/-- The longest ending of a name that has the module form, with the names in it. -/
structure IsLongestForm (name ending moduleName inner : List Char) : Prop where
  at_end : ending <:+ name
  form : HasModuleForm ending moduleName inner
  longest : ∀ other otherName otherInner, other <:+ name →
    HasModuleForm other otherName otherInner → other.length ≤ ending.length

variable {before ending : List Char}

theorem inModule_append : InModule (before ++ ending) before moduleName inner ↔
    HasModuleForm ending moduleName inner := by
  induction before with
  | nil => exact Iff.rfl
  | cons c before ih =>
      rw [List.cons_append, inModule_cons, ih]
      exact and_iff_right rfl

/-- A name ends in a module and a controller behind some text if the rest of it has the form. -/
theorem inModule_iff : InModule name before moduleName inner ↔
    ∃ ending, name = before ++ ending ∧ HasModuleForm ending moduleName inner := by
  constructor
  · intro h
    obtain ⟨⟨marker, -, rfl⟩, -⟩ := id h
    exact ⟨_, rfl, inModule_append.mp h⟩
  · rintro ⟨ending, rfl, h⟩
    exact inModule_append.mpr h

/-- What begins first is longest. -/
theorem leadsIntoModule_iff : LeadsIntoModule name moduleName inner ↔
    ∃ ending, IsLongestForm name ending moduleName inner := by
  constructor
  · rintro ⟨before, hin, hfirst⟩
    obtain ⟨ending, rfl, hform⟩ := inModule_iff.mp hin
    refine ⟨ending, List.suffix_append before ending, hform, ?_⟩
    rintro other otherName otherInner ⟨earlier, hother⟩ hform'
    have hle := hfirst earlier _ _ (inModule_iff.mpr ⟨other, hother.symm, hform'⟩)
    have hlength := congrArg List.length hother
    simp only [List.length_append] at hlength
    omega
  · rintro ⟨ending, ⟨before, rfl⟩, hform, hlongest⟩
    refine ⟨before, inModule_append.mpr hform, fun earlier otherName otherInner hin => ?_⟩
    obtain ⟨other, hother, hform'⟩ := inModule_iff.mp hin
    have hle := hlongest other _ _ ⟨earlier, hother.symm⟩ hform'
    have hlength := congrArg List.length hother
    simp only [List.length_append] at hlength
    omega

theorem exists_splitModule?_iff : (∃ names, splitModule? name = some names) ↔
    ∃ ending moduleName inner, ending <:+ name ∧ HasModuleForm ending moduleName inner := by
  constructor
  · rintro ⟨⟨moduleName, inner⟩, h⟩
    obtain ⟨ending, hlongest⟩ := leadsIntoModule_iff.mp (splitModule?_eq_some_iff.mp h)
    exact ⟨ending, moduleName, inner, hlongest.at_end, hlongest.form⟩
  · rintro ⟨ending, moduleName, inner, ⟨before, hname⟩, hform⟩
    refine Option.ne_none_iff_exists'.mp fun hnone => ?_
    exact splitModule?_eq_none_iff.mp hnone before moduleName inner
      (inModule_iff.mpr ⟨ending, hname.symm, hform⟩)

/-- In a text of the form the last hyphen separates the names. -/
theorem HasModuleForm.splitLastHyphen (h : HasModuleForm text moduleName inner) :
    ∃ marker, SameUpToCase marker "module-".toList ∧
      Request.splitLastHyphen text = some (marker ++ moduleName, inner) := by
  obtain ⟨⟨marker, hsame, rfl⟩, hnames⟩ := h
  refine ⟨marker, hsame, splitLastHyphen_eq_some_iff.mpr ⟨?_, hnames.hyphen_not_mem⟩⟩
  rw [List.nil_append, List.append_assoc]

theorem splitModule?_of_names (h : AreModuleNames moduleName inner) :
    splitModule? ("module-".toList ++ (moduleName ++ '-' :: inner)) = some (moduleName, inner) :=
  splitModule?_eq_some_iff.mpr
    ⟨[], ⟨⟨"module-".toList, .refl _, rfl⟩, h⟩, fun _ _ _ _ => Nat.zero_le _⟩

/-- A name is split exactly if it ends in the module form, at the longest such ending and the last
hyphen of it; and that is what the pattern finds. A name in the module form is split into the names
that it is made of. -/
theorem moduleForm_parses :
    (∀ name, (∃ names, splitModule? name = some names) ↔
      ∃ ending moduleName inner, ending <:+ name ∧ HasModuleForm ending moduleName inner) ∧
    (∀ name moduleName inner, splitModule? name = some (moduleName, inner) ↔
      ∃ ending, IsLongestForm name ending moduleName inner) ∧
    (∀ text moduleName inner, HasModuleForm text moduleName inner →
      ∃ marker, SameUpToCase marker "module-".toList ∧
        splitLastHyphen text = some (marker ++ moduleName, inner)) ∧
    (∀ moduleName inner, AreModuleNames moduleName inner →
      splitModule? ("module-".toList ++ (moduleName ++ '-' :: inner)) = some (moduleName, inner)) ∧
    ∃ regex, Regex.compile moduleForm = .ok regex ∧ ∀ name,
      regex.captures name = (splitModule? name.toList).map fun found =>
        [("_", String.ofList found.1), ("__", String.ofList found.2)] :=
  ⟨fun _ => exists_splitModule?_iff,
    fun _ _ _ => splitModule?_eq_some_iff.trans leadsIntoModule_iff,
    fun _ _ _ h => h.splitLastHyphen, fun _ _ => splitModule?_of_names,
    _, compile_moduleForm, captures_moduleForm moduleForm⟩

/-- The name of a module may have hyphens in it. -/
theorem moduleForm_parses_myBlog :
    AreModuleNames "my-blog".toList "post_list".toList ∧
      splitModule? "module-my-blog-post_list".toList =
        some ("my-blog".toList, "post_list".toList) ∧
      ∃ regex, Regex.compile moduleForm = .ok regex ∧
        regex.captures "module-my-blog-post_list" =
          some [("_", "my-blog"), ("__", "post_list")] := by
  have hread : moduleNames? "my-blog-post_list".toList =
      some ("my-blog".toList, "post_list".toList) := by
    decide
  obtain ⟨-, hnames⟩ := moduleNames?_eq_some_iff.mp hread
  obtain ⟨-, -, -, hsplit, regex, hregex, hcaptures⟩ := moduleForm_parses
  have hfound := hsplit _ _ hnames
  refine ⟨hnames, hfound, regex, hregex, ?_⟩
  have hname : "module-my-blog-post_list".toList =
      "module-".toList ++ ("my-blog".toList ++ '-' :: "post_list".toList) := by
    decide
  rw [hcaptures, hname, hfound]
  rfl

end Waymark.Request
