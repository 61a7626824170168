import Waymark.Proofs.Explicit
import Waymark.Proofs.Pattern.Preference
import Waymark.Proofs.Request.ModuleForm

/-! # The forms of explicit controllers as patterns

The value of a parameter that may name a controller is read by two patterns, one after the other.
The first one takes a name and a parameter of its own apart. It closes the characters of the name
under case, so it lets two characters outside ASCII pass, and it may match in several ways, of which
the one with the shortest key is preferred. The second one lets only names of ASCII pass, whether
they were taken off or are the whole value.
-/

namespace Waymark.Request

open Pattern
open Pattern.Expr (Steps Prefers)

variable {text value word name key assigned : List Char} {cursor : Cursor} {s t : Thread}

/-! ## Mere names -/

/-- A pattern for a name from end to end. -/
def plainForm : String := "^[0-9A-Za-z_-]+$"

/-- The tree of the pattern. -/
def plainAst : Ast :=
  .cat (.assertion .lineStart) <| .cat (.repeated (.bracketed false <|
    .union (.union (.union (.union (.range '0' '9' false false) (.range 'A' 'Z' false false))
      (.range 'a' 'z' false false)) (.literal '_' false)) (.literal '-' false)) 1 none true)
    (.assertion .lineEnd)

/-- The characters of names. -/
def plainSet : CharSet :=
  .union (.union (.union (.union (.range '0' '9') (.range 'A' 'Z')) (.range 'a' 'z')) (.only '_'))
    (.only '-')

/-- The pattern that the text spells. -/
def plainExpr : Expr :=
  .cat (.anchor .textStart) <| .cat (.repeated (.one plainSet) 1 none true) (.anchor .textEnd)

theorem compile_plainForm : Regex.compile plainForm = .ok ⟨plainForm, plainExpr⟩ := by
  have hast : Ast.ofText plainForm.toList = .ok plainAst := by decide +kernel
  have hexpr : Expr.elaborate .initial plainAst = .ok (plainExpr, .initial) := rfl
  exact bind_eq_ok.mpr ⟨_, hast, bind_eq_ok.mpr ⟨_, hexpr, rfl⟩⟩

theorem contains_plainSet {c : Char} : plainSet.contains c = true ↔ NameChar c := by
  simp only [plainSet, CharSet.contains, Bool.or_eq_true, Bool.and_eq_true, decide_eq_true_eq,
    beq_iff_eq, NameChar, or_assoc]

theorem mem_language_plain :
    word ∈ (Expr.repeated (.one plainSet) 1 none true).language ↔ IsName word := by
  rw [Expr.mem_language_repeated_iff, Nat.succ_le_iff, List.length_pos_iff]
  simp only [contains_plainSet]
  exact ⟨fun ⟨hnonempty, hchars⟩ => ⟨hnonempty, hchars⟩, fun h => ⟨h.nonempty, h.chars⟩⟩

/-- A way through the pattern is a name from end to end. -/
theorem isName_of_steps (hon : cursor.On value) (h : Steps plainExpr ⟨cursor, []⟩ t) :
    IsName value := by
  obtain ⟨rfl, hsteps⟩ := (Expr.steps_atStart_iff hon).mp h
  obtain ⟨hname, hend⟩ := Expr.steps_atEnd_iff.mp hsteps
  obtain ⟨name, hname, hrest⟩ := hname.consumes rfl
  rw [hend, List.append_nil] at hrest
  obtain rfl : value = name := hrest
  exact mem_language_plain.mp hname

theorem exists_steps_plainExpr (h : IsName value) :
    ∃ t, Steps plainExpr ⟨.start value, []⟩ t := by
  have hstart : (Thread.mk (.start value) []).cursor.rest = value ++ [] :=
    (List.append_nil value).symm
  obtain ⟨t, hname, ht⟩ := Expr.exists_steps (mem_language_plain.mpr h) hstart
  exact ⟨t, .cat (.anchor rfl) (Expr.steps_atEnd_iff.mpr ⟨hname, ht⟩)⟩

/-- A text is the name of a controller exactly if the pattern matches. -/
theorem isSome_captures_plainForm (source name : String) :
    ((Regex.mk source plainExpr).captures name).isSome = isControllerName name.toList := by
  rw [Regex.captures, Option.isSome_map, Bool.eq_iff_iff, isControllerName_iff]
  constructor
  · intro hsome
    obtain ⟨t, hsearch⟩ := Option.isSome_iff_exists.mp hsome
    obtain ⟨cursor, hon, hsteps⟩ := Expr.search_sound hsearch
    exact isName_of_steps hon hsteps
  · intro hname
    obtain ⟨t, ht⟩ := exists_steps_plainExpr hname
    exact Expr.search_isSome (Cursor.start_on _) ht

/-! ## Names with a parameter -/

/-- A pattern for a name, a question mark and one parameter, with a group for each of the three
texts. -/
def legacyForm : String := "(?i)^(?P<_>[0-9a-z_-]+)\\?(?P<__>.*?)=(?P<___>.*)$"

/-- The tree of the pattern. -/
def legacyAst : Ast :=
  .cat (.flags [(.caseInsensitive, true)]) <| .cat (.assertion .lineStart) <|
    .cat (nameOfAst "_" <| .union (.union (.union (.range '0' '9' false false)
      (.range 'a' 'z' false false)) (.literal '_' false)) (.literal '-' false)) <|
    .cat (.literal '?' false) <|
    .cat (.group (.capture (some "__")) (.repeated .dot 0 none false)) <|
    .cat (.literal '=' false) <| .cat (.group (.capture (some "___")) (.repeated .dot 0 none true))
      (.assertion .lineEnd)

/-- The characters of names in small letters, with the hyphen. -/
def legacySet : CharSet :=
  .union (.union (.union (.range '0' '9') (.range 'a' 'z')) (.only '_')) (.only '-')

/-- The rest of a line, in a group. -/
def lineOf (group : String) (greedy : Bool) : Expr :=
  .capture group (.repeated (.one .notBreak) 0 none greedy)

/-- The pattern of what follows the key. -/
def assignedExpr : Expr :=
  .cat (.one (.folded (.only '='))) <| .cat (lineOf "___" true) (.anchor .textEnd)

/-- The pattern that the text spells. -/
def legacyExpr : Expr :=
  .cat .empty <| .cat (.anchor .textStart) <| .cat (nameOf "_" legacySet) <|
    .cat (.one (.folded (.only '?'))) <| .cat (lineOf "__" false) assignedExpr

theorem compile_legacyForm : Regex.compile legacyForm = .ok ⟨legacyForm, legacyExpr⟩ := by
  have hast : Ast.ofText legacyForm.toList = .ok legacyAst := by decide +kernel
  have hexpr : Expr.elaborate .initial legacyAst =
      .ok (legacyExpr, { Flags.initial with caseInsensitive := true }) := rfl
  exact bind_eq_ok.mpr ⟨_, hast, bind_eq_ok.mpr ⟨_, hexpr, rfl⟩⟩

/-- A value is a name up to case, a question mark and a parameter on one line, whose key has no
equals sign. -/
structure HasLegacyForm (value name key assigned : List Char) : Prop where
  value : value = name ++ '?' :: (key ++ '=' :: assigned)
  nonempty : name ≠ []
  chars : ∀ c ∈ name, isWordChar c = true ∨ c = '-'
  equals : '=' ∉ key
  key : '\n' ∉ key
  assigned : '\n' ∉ assigned

theorem HasLegacyForm.questionMark_not_mem (h : HasLegacyForm value name key assigned) :
    '?' ∉ name := by
  intro hmem
  rcases h.chars '?' hmem with hword | hhyphen
  · cases hword
  · cases hhyphen

/-- A value is taken apart in one way only. -/
theorem HasLegacyForm.unique {name' key' assigned' : List Char}
    (h : HasLegacyForm value name key assigned) (h' : HasLegacyForm value name' key' assigned') :
    name' = name ∧ key' = key ∧ assigned' = assigned := by
  have hmark := Text.splitFirst_eq_some_iff.mpr ⟨h.value, h.questionMark_not_mem⟩
  rw [Text.splitFirst_eq_some_iff.mpr ⟨h'.value, h'.questionMark_not_mem⟩] at hmark
  obtain ⟨rfl, hrest⟩ := Prod.mk.inj (Option.some.inj hmark)
  have hequals : Text.splitFirst '=' (key ++ '=' :: assigned) = some (key, assigned) :=
    Text.splitFirst_eq_some_iff.mpr ⟨rfl, h.equals⟩
  rw [← hrest, Text.splitFirst_eq_some_iff.mpr ⟨rfl, h'.equals⟩] at hequals
  obtain ⟨rfl, rfl⟩ := Prod.mk.inj (Option.some.inj hequals)
  exact ⟨rfl, rfl, rfl⟩

/-! ### The ways through the pattern -/

theorem mem_language_sign {sign : Char} (h : sign ∈ ['?', '=']) :
    word ∈ (Expr.one (.folded (.only sign))).language ↔ word = [sign] := by
  have hall : ['?', '='].all (fun d => !d.isLower && CharSet.isFoldOf Char.toLower d) = true := by
    decide +kernel
  have hboth := List.all_eq_true.mp hall sign h
  rw [Bool.and_eq_true, Bool.not_eq_true'] at hboth
  have hcontains := CharSet.contains_of_isFoldOf
    (fun _ h => .inl (Unicode.toNat_lt_of_toLower h)) hboth.2
  constructor
  · rintro ⟨c, hc, rfl⟩
    rw [hcontains, beq_iff_eq] at hc
    rw [Text.eq_of_toLower hboth.1 hc]
  · rintro rfl
    refine ⟨sign, ?_, rfl⟩
    rw [CharSet.contains, CharSet.contains, beq_self_eq_true, Bool.true_or]

theorem mem_language_name : name ∈ (nameOf "_" legacySet).language ↔
    name ≠ [] ∧ ∀ c ∈ name, isWordChar c = true ∨ c = '-' := by
  have hsame : ∀ c, legacySet.contains c = (CharSet.union nameSet (.only '-')).contains c := by
    intro c
    simp only [legacySet, nameSet, CharSet.contains, Bool.or_comm ('0' ≤ c && c ≤ '9')]
  rw [mem_language_nameOf]
  simp only [CharSet.contains_folded_congr hsame, contains_nameOrHyphen, Bool.or_eq_true,
    beq_iff_eq]

theorem mem_language_lineOf {group : String} {greedy : Bool} :
    word ∈ (lineOf group greedy).language ↔ '\n' ∉ word :=
  @Expr.mem_language_line _ greedy

theorem of_steps_assignedExpr (hs : s.cursor.On text) (h : Steps assignedExpr s t) :
    ∃ assigned, s.cursor.rest = '=' :: assigned ∧ '\n' ∉ assigned ∧
      t.group? "___" = some assigned := by
  obtain ⟨u, hequals, h⟩ := Expr.steps_cat_iff.mp h
  obtain ⟨hline, hend⟩ := Expr.steps_atEnd_iff.mp h
  obtain ⟨equals, hsign, hrest⟩ := hequals.consumes rfl
  obtain ⟨assigned, hassigned, hlast, hgroup⟩ := hline.captured rfl (hequals.on hs)
  rw [hend, List.append_nil] at hlast
  rw [(mem_language_sign (by simp)).mp hsign, hlast] at hrest
  exact ⟨assigned, hrest, Expr.mem_language_line.mp hassigned, hgroup⟩

theorem exists_steps_assignedExpr (hrest : s.cursor.rest = '=' :: assigned)
    (h : '\n' ∉ assigned) : ∃ t, Steps assignedExpr s t := by
  rw [← List.singleton_append, ← List.append_nil assigned] at hrest
  obtain ⟨u, hequals, hu⟩ := Expr.exists_steps ((mem_language_sign (by simp)).mpr rfl) hrest
  obtain ⟨t, hline, ht⟩ := Expr.exists_steps ((@mem_language_lineOf _ "___" true).mpr h) hu
  exact ⟨t, .cat hequals (Expr.steps_atEnd_iff.mpr ⟨hline, ht⟩)⟩

/-- A key with an equals sign would not be preferred: it could end in front of the sign. -/
theorem of_prefers_parameter (hs : s.cursor.On text)
    (h : Prefers (.cat (lineOf "__" false) assignedExpr) s t) :
    ∃ key assigned, s.cursor.rest = key ++ '=' :: assigned ∧ '=' ∉ key ∧ '\n' ∉ key ∧
      '\n' ∉ assigned ∧ t.group? "__" = some key ∧ t.group? "___" = some assigned := by
  obtain ⟨u, hkey, hu, hassigned, hleast⟩ :=
    h.least hs (Expr.pairwise_run_capture (Expr.pairwise_run_lazy hs))
  have hassigned := hassigned.steps hu
  obtain ⟨key, hline, hrest, hgroup⟩ := hkey.captured rfl hs
  obtain ⟨assigned, hequals, hbreak, hgroup'⟩ := of_steps_assignedExpr hu hassigned
  have hbreakKey := Expr.mem_language_line.mp hline
  refine ⟨key, assigned, hrest.trans (congrArg _ hequals), ?_, hbreakKey, hbreak,
    (hassigned.group?_eq (by decide)).trans hgroup, hgroup'⟩
  intro hmem
  obtain ⟨front, back, rfl, -⟩ := List.eq_append_cons_of_mem hmem
  rw [List.mem_append, List.mem_cons, not_or, not_or] at hbreakKey
  rw [List.append_assoc, hequals] at hrest
  obtain ⟨v, hshort, hv⟩ := Expr.exists_steps
    ((@mem_language_lineOf _ "__" false).mpr hbreakKey.1) hrest
  obtain ⟨w, hw⟩ := exists_steps_assignedExpr hv (by simp [hbreakKey.2.2, hbreak])
  have hle := hleast v w hshort hw
  have hlength := hu.index_add_length
  have hlength' := (hshort.on hs).index_add_length
  rw [hequals] at hlength
  rw [hv] at hlength'
  simp only [List.length_cons, List.length_append, List.cons_append] at hlength hlength'
  simp only [Thread.index] at hle
  omega

/-- The preferred way through the pattern takes a value apart, and the groups hold its parts. -/
theorem of_prefers_legacyExpr (hon : cursor.On value) (h : Prefers legacyExpr ⟨cursor, []⟩ t) :
    ∃ name key assigned, HasLegacyForm value name key assigned ∧ t.group? "_" = some name ∧
      t.group? "__" = some key ∧ t.group? "___" = some assigned := by
  obtain ⟨s, hempty, -, h⟩ := h.split hon
  cases hempty
  obtain ⟨s, hfront, -, h⟩ := h.split hon
  obtain ⟨hstart, rfl⟩ := Expr.steps_anchor_iff.mp hfront
  obtain rfl := hon.eq_start hstart
  obtain ⟨s, hname, hs, h⟩ := h.split hon
  obtain ⟨u, hmark, hu, h⟩ := h.split hs
  have hparameter := h.steps hu
  obtain ⟨name, hlanguage, hrest, hgroup⟩ := hname.captured rfl hon
  obtain ⟨mark, hsign, hrest'⟩ := hmark.consumes rfl
  obtain ⟨key, assigned, hlast, hequals, hkey, hassigned, hgroups⟩ := of_prefers_parameter hu h
  obtain ⟨hnonempty, hchars⟩ := mem_language_name.mp hlanguage
  refine ⟨name, key, assigned, ⟨?_, hnonempty, hchars, hequals, hkey, hassigned⟩, ?_, hgroups⟩
  · change value = name ++ s.cursor.rest at hrest
    rw [hrest, hrest', (mem_language_sign (by simp)).mp hsign, hlast]
    rfl
  · rw [hparameter.group?_eq (by decide), hmark.group?_eq (by decide), hgroup]

theorem exists_steps_legacyExpr (h : HasLegacyForm value name key assigned) :
    ∃ t, Steps legacyExpr ⟨.start value, []⟩ t := by
  have hstart : (Thread.mk (.start value) []).cursor.rest =
      name ++ (['?'] ++ (key ++ '=' :: assigned)) := h.value
  obtain ⟨s, hname, hs⟩ := Expr.exists_steps (mem_language_name.mpr ⟨h.nonempty, h.chars⟩) hstart
  obtain ⟨u, hmark, hu⟩ := Expr.exists_steps ((mem_language_sign (by simp)).mpr rfl) hs
  obtain ⟨v, hkey, hv⟩ := Expr.exists_steps ((@mem_language_lineOf _ "__" false).mpr h.key) hu
  obtain ⟨t, hassigned⟩ := exists_steps_assignedExpr hv h.assigned
  exact ⟨t, .cat (.empty _) (.cat (.anchor rfl) (.cat hname (.cat hmark (.cat hkey hassigned))))⟩

/-- The groups of the pattern hold the parts of a value. -/
theorem captures_legacyForm_iff {source value : String} {groups : List (String × String)} :
    (Regex.mk source legacyExpr).captures value = some groups ↔
      ∃ name key assigned, HasLegacyForm value.toList name key assigned ∧
        groups = [("_", String.ofList name), ("__", String.ofList key),
          ("___", String.ofList assigned)] := by
  have hnames : legacyExpr.groupNames = ["_", "__", "___"] := by decide
  have hgroups : ∀ t, legacyExpr.search value.toList = some t → ∃ name key assigned,
      HasLegacyForm value.toList name key assigned ∧
        (Regex.mk source legacyExpr).captures value = some [("_", String.ofList name),
          ("__", String.ofList key), ("___", String.ofList assigned)] := by
    intro t hsearch
    obtain ⟨cursor, hon, hprefers⟩ := Expr.prefers_of_search hsearch
    obtain ⟨name, key, assigned, hform, hname, hkey, hassigned⟩ :=
      of_prefers_legacyExpr hon hprefers
    refine ⟨name, key, assigned, hform, ?_⟩
    rw [Regex.captures, hsearch, Option.map_some, hnames]
    simp [hname, hkey, hassigned]
  constructor
  · intro h
    obtain ⟨t, hsearch, -⟩ := Option.map_eq_some_iff.mp h
    obtain ⟨name, key, assigned, hform, hcaptures⟩ := hgroups t hsearch
    exact ⟨name, key, assigned, hform, Option.some.inj (h.symm.trans hcaptures)⟩
  · rintro ⟨name, key, assigned, hform, rfl⟩
    obtain ⟨u, hu⟩ := exists_steps_legacyExpr hform
    obtain ⟨t, hsearch⟩ := Option.isSome_iff_exists.mp
      (Expr.search_isSome (Cursor.start_on value.toList) hu)
    obtain ⟨_, _, _, hform', hcaptures⟩ := hgroups t hsearch
    obtain ⟨rfl, rfl, rfl⟩ := hform.unique hform'
    exact hcaptures

/-! ## Both patterns -/

/-- What a value names: the first pattern may take a name and a parameter off it, and the second one
must let the name pass. -/
def readNamed? (legacy plain : Regex) (value : String) : Option (String × Params) :=
  let read : String × Params :=
    match legacy.captures value with
    | some [(_, name), (_, key), (_, assigned)] => (name, .ofList [(key, assigned)])
    | _ => (value, .empty)
  if (plain.captures read.1).isSome then some read else none

/-- A name of ASCII and a parameter is what the first pattern takes off and the second one lets
pass. -/
theorem legacyForm?_eq_some_iff : legacyForm? value = some (name, key, assigned) ↔
    HasLegacyForm value name key assigned ∧ isControllerName name = true := by
  rw [legacyForm?_eq_some, isControllerName_iff]
  constructor
  · rintro ⟨hvalue, hname, hequals, hkey, hassigned⟩
    refine ⟨⟨hvalue, hname.nonempty, fun c hc => ?_, hequals, hkey, hassigned⟩, hname⟩
    have hchar := isNameChar_iff.mpr (hname.chars c hc)
    rw [isNameChar, Bool.or_eq_true, beq_iff_eq] at hchar
    refine hchar.imp_left fun hword => ?_
    rw [isWordChar, hword, Bool.true_or, Bool.true_or]
  · rintro ⟨hform, hname⟩
    exact ⟨hform.value, hname, hform.equals, hform.key, hform.assigned⟩

theorem readNamed?_eq (legacy plain : String) (value : List Char) :
    readNamed? ⟨legacy, legacyExpr⟩ ⟨plain, plainExpr⟩ (String.ofList value) = named? value := by
  unfold readNamed? named?
  simp only [isSome_captures_plainForm]
  cases hcaptures : (Regex.mk legacy legacyExpr).captures (String.ofList value) with
  | none =>
      have hnone : legacyForm? value = none := by
        refine Option.eq_none_iff_forall_ne_some.mpr fun ⟨name, key, assigned⟩ hread => ?_
        have hform := (legacyForm?_eq_some_iff.mp hread).1
        rw [← String.toList_ofList (l := value)] at hform
        cases hcaptures.symm.trans (captures_legacyForm_iff.mpr ⟨_, _, _, hform, rfl⟩)
      simp only [hnone, String.toList_ofList]
  | some groups =>
      obtain ⟨name, key, assigned, hform, rfl⟩ := captures_legacyForm_iff.mp hcaptures
      rw [String.toList_ofList] at hform
      simp only [String.toList_ofList]
      by_cases hname : isControllerName name = true
      · rw [if_pos hname, legacyForm?_eq_some_iff.mpr ⟨hform, hname⟩]
      · -- the name has a character outside ASCII, and the whole value has a question mark
        have hnone : legacyForm? value = none := by
          refine Option.eq_none_iff_forall_ne_some.mpr fun ⟨name', _, _⟩ hread => hname ?_
          obtain ⟨hform', hname'⟩ := legacyForm?_eq_some_iff.mp hread
          obtain ⟨rfl, -⟩ := hform.unique hform'
          exact hname'
        have hvalue : ¬ isControllerName value = true := by
          intro hvalue
          refine questionMark_not_mem_of_isControllerName hvalue ?_
          rw [hform.value]
          exact List.mem_append_right _ List.mem_cons_self
        rw [if_neg hname, hnone]
        exact (if_neg hvalue).symm

/-- The controller that a query names is what the two patterns read from the value of its first
parameter of that name. -/
theorem explicitController?_reads : ∃ legacy plain, Regex.compile legacyForm = .ok legacy ∧
    Regex.compile plainForm = .ok plain ∧ ∀ query, explicitController? query =
      ((Text.Form.parse query).find? fun pair => pair.1 = "controller".toList).bind
        fun pair => readNamed? legacy plain (String.ofList pair.2) := by
  refine ⟨_, _, compile_legacyForm, compile_plainForm, fun query => ?_⟩
  simp only [readNamed?_eq]
  exact explicitController?_eq query

end Waymark.Request
