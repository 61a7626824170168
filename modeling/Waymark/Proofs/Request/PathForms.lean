import Waymark.Pattern.Regex
import Waymark.Proofs.Pattern.Meaning
import Waymark.Proofs.Pattern.Search
import Waymark.Proofs.Request.NormalForm
import Waymark.Proofs.Unicode.Case
import Waymark.Request.Asset

/-! # The forms of paths as patterns

Two readers look at the path of a request before any route does: one for a locale segment in front
and one for the extension of a static asset at the end. Both can be told by patterns. The first one
is anchored at the front, so there is one way through it at most; the second one closes its letters
under case, which brings in the long s and nothing else outside ASCII.
-/

namespace Waymark.Request

open Pattern
open Pattern.Expr (Steps)

variable {text path rest word : List Char} {cursor : Cursor} {s t : Thread}

/-! ## Locale segments -/

/-- A pattern for a segment of two small letters before a path, with a group for the letters. -/
def localeForm : String := "^/(?P<_>[a-z]\x7b2\x7d)(?:/.*)?$"

/-- The tree of the pattern. -/
def localeAst : Ast :=
  .cat (.assertion .lineStart) <| .cat (.literal '/' false) <|
    .cat (.group (.capture (some "_"))
      (.repeated (.bracketed false (.range 'a' 'z' false false)) 2 (some 2) true)) <|
    .cat (.repeated (.group (.plain [])
      (.cat (.literal '/' false) (.repeated .dot 0 none true))) 0 (some 1) true)
      (.assertion .lineEnd)

/-- Two small letters. -/
def lettersExpr : Expr := .repeated (.one (.range 'a' 'z')) 2 (some 2) true

/-- Nothing, or a slash and a line. -/
def behindExpr : Expr :=
  .repeated (.cat (.one (.only '/')) (.repeated (.one .notBreak) 0 none true)) 0 (some 1) true

/-- The pattern that the text spells. -/
def localeExpr : Expr :=
  .cat (.anchor .textStart) <| .cat (.one (.only '/')) <| .cat (.capture "_" lettersExpr) <|
    .cat behindExpr (.anchor .textEnd)

theorem compile_localeForm : Regex.compile localeForm = .ok ⟨localeForm, localeExpr⟩ := by
  have hast : Ast.ofText localeForm.toList = .ok localeAst := by decide +kernel
  have hexpr : Expr.elaborate .initial localeAst = .ok (localeExpr, .initial) := rfl
  exact bind_eq_ok.mpr ⟨_, hast, bind_eq_ok.mpr ⟨_, hexpr, rfl⟩⟩

theorem mem_language_letters : word ∈ lettersExpr.language ↔ IsLocale word := by
  have hletter : ∀ c, (CharSet.range 'a' 'z').contains c = true ↔ 'a' ≤ c ∧ c ≤ 'z' := by
    intro c
    rw [CharSet.contains, Bool.and_eq_true, decide_eq_true_eq, decide_eq_true_eq]
  constructor
  · rintro ⟨count, hlow, hmost, hword⟩
    obtain rfl : count = 2 := Nat.le_antisymm (hmost 2 rfl) hlow
    rw [pow_two] at hword
    obtain ⟨_, ⟨a, ha, rfl⟩, _, ⟨b, hb, rfl⟩, rfl⟩ := Language.mem_mul.mp hword
    exact ⟨a, b, rfl, (hletter a).mp ha, (hletter b).mp hb⟩
  · rintro ⟨a, b, rfl, ha, hb⟩
    refine ⟨2, Nat.le_refl 2, fun _ h => Nat.le_of_eq (Option.some.inj h), ?_⟩
    rw [pow_two]
    exact Language.append_mem_mul (a := [a]) ⟨a, (hletter a).mpr ha, rfl⟩
      ⟨b, (hletter b).mpr hb, rfl⟩

theorem mem_language_behind : word ∈ behindExpr.language ↔
    word = [] ∨ ∃ line, word = '/' :: line ∧ '\n' ∉ line := by
  rw [behindExpr, Expr.language_optional, Language.mem_add, Language.mem_one]
  refine or_congr_right ?_
  constructor
  · intro h
    obtain ⟨slash, hslash, line, hline, rfl⟩ := Language.mem_mul.mp h
    rw [Expr.mem_language_only.mp hslash]
    exact ⟨line, rfl, Expr.mem_language_line.mp hline⟩
  · rintro ⟨line, rfl, hline⟩
    exact Language.append_mem_mul (a := ['/']) (Expr.mem_language_only.mpr rfl)
      (Expr.mem_language_line.mpr hline)

/-- A way through the pattern is a path with a locale segment in front, which the group holds. -/
theorem of_steps_localeExpr (hon : cursor.On path) (h : Steps localeExpr ⟨cursor, []⟩ t) :
    ∃ code rest, SplitsLocale path code rest ∧ t.group? "_" = some code := by
  obtain ⟨rfl, hsteps⟩ := (Expr.steps_atStart_iff hon).mp h
  obtain ⟨s, hslash, hsteps⟩ := Expr.steps_cat_iff.mp hsteps
  obtain ⟨u, hletters, hsteps⟩ := Expr.steps_cat_iff.mp hsteps
  obtain ⟨hbehind, hend⟩ := Expr.steps_atEnd_iff.mp hsteps
  have hons := hslash.on hon
  obtain ⟨slash, hslash, hpath⟩ := hslash.consumes rfl
  obtain ⟨code, hcode, hinner, hgroup⟩ := hletters.captured rfl hons
  obtain ⟨rest, hrest, hlast⟩ := hbehind.consumes rfl
  rw [hend, List.append_nil] at hlast
  refine ⟨code, rest, ⟨mem_language_letters.mp hcode, ?_, mem_language_behind.mp hrest⟩, ?_⟩
  · change path = slash ++ s.cursor.rest at hpath
    rw [hpath, Expr.mem_language_only.mp hslash, hinner, hlast]
    rfl
  · rw [hbehind.group?_eq (by decide), hgroup]

theorem exists_steps_localeExpr {code : List Char} (h : SplitsLocale path code rest) :
    ∃ t, Steps localeExpr ⟨.start path, []⟩ t := by
  have hstart : (Thread.mk (.start path) []).cursor.rest = ['/'] ++ (code ++ rest) := h.path
  obtain ⟨s, hslash, hs⟩ := Expr.exists_steps (Expr.mem_language_only.mpr rfl) hstart
  obtain ⟨u, hletters, hu⟩ := @Expr.exists_steps (.capture "_" lettersExpr) _ _ _
    (mem_language_letters.mpr h.locale) hs
  rw [← List.append_nil rest] at hu
  obtain ⟨t, hbehind, ht⟩ := Expr.exists_steps (mem_language_behind.mpr h.rest) hu
  exact ⟨t, .cat (.anchor rfl) (.cat hslash (.cat hletters
    (Expr.steps_atEnd_iff.mpr ⟨hbehind, ht⟩)))⟩

/-- The group of the pattern holds the locale segment that is split off. -/
theorem captures_localeForm (source path : String) :
    (Regex.mk source localeExpr).captures path =
      (splitLocale? path.toList).map fun found => [("_", String.ofList found.1)] := by
  have hnames : localeExpr.groupNames = ["_"] := by decide
  unfold Regex.captures
  dsimp only
  rw [hnames]
  cases hsearch : localeExpr.search path.toList with
  | none =>
      have hnone : splitLocale? path.toList = none := by
        refine Option.eq_none_iff_forall_ne_some.mpr fun found hfound => ?_
        obtain ⟨t, ht⟩ := exists_steps_localeExpr (splitLocale?_eq_some_iff.mp hfound)
        have hsome := Expr.search_isSome (Cursor.start_on path.toList) ht
        rw [hsearch] at hsome
        cases hsome
      rw [hnone]
      rfl
  | some t =>
      obtain ⟨cursor, hon, hsteps⟩ := Expr.search_sound hsearch
      obtain ⟨code, rest, hsplits, hgroup⟩ := of_steps_localeExpr hon hsteps
      rw [splitLocale?_eq_some_iff.mpr hsplits]
      simp [hgroup]

/-- A path is split into its locale segment and the rest as the pattern says: the group holds the
segment, and what remains begins behind a slash and the two letters. -/
theorem splitLocale?_reads : ∃ regex, Regex.compile localeForm = .ok regex ∧
    ∀ path : String,
      regex.captures path =
        (splitLocale? path.toList).map (fun found => [("_", String.ofList found.1)]) ∧
      ∀ code rest, splitLocale? path.toList = some (code, rest) → rest = path.toList.drop 3 := by
  refine ⟨_, compile_localeForm, fun path => ⟨captures_localeForm _ path, ?_⟩⟩
  intro code rest h
  obtain ⟨⟨a, b, rfl, -⟩, hpath, -⟩ := splitLocale?_eq_some_iff.mp h
  rw [hpath]
  rfl

/-! ## Static assets -/

/-- A pattern for the extension of a static asset at the end of a path. -/
def assetForm : String := "(?i)\\.(gif|jpe?g|png|css|js|ico)$"

/-- A fixed text as a tree. -/
def wordAst : List Char → Ast
  | [] => .empty
  | [c] => .literal c false
  | c :: word => .cat (.literal c false) (wordAst word)

/-- The tree of the pattern. -/
def assetAst : Ast :=
  .cat (.flags [(.caseInsensitive, true)]) <| .cat (.literal '.' false) <|
    .cat (.group (.capture none) <|
      .alt (wordAst "gif".toList) <|
      .alt (.cat (.literal 'j' false) <| .cat (.literal 'p' false) <|
        .cat (.repeated (.literal 'e' false) 0 (some 1) true) (.literal 'g' false)) <|
      .alt (wordAst "png".toList) <| .alt (wordAst "css".toList) <|
      .alt (wordAst "js".toList) (wordAst "ico".toList)) (.assertion .lineEnd)

/-- One letter in either case. -/
def letterExpr (c : Char) : Expr := .one (.folded (.only c))

/-- A fixed text in either case. -/
def wordExpr : List Char → Expr
  | [] => .empty
  | [c] => letterExpr c
  | c :: word => .cat (letterExpr c) (wordExpr word)

/-- The pattern of the extensions. -/
def extensionExpr : Expr :=
  .alt (wordExpr "gif".toList) <|
  .alt (.cat (letterExpr 'j') <| .cat (letterExpr 'p') <|
    .cat (.repeated (letterExpr 'e') 0 (some 1) true) (letterExpr 'g')) <|
  .alt (wordExpr "png".toList) <| .alt (wordExpr "css".toList) <|
  .alt (wordExpr "js".toList) (wordExpr "ico".toList)

/-- The pattern that the text spells. -/
def assetExpr : Expr :=
  .cat .empty <| .cat (letterExpr '.') <| .cat extensionExpr (.anchor .textEnd)

theorem compile_assetForm : Regex.compile assetForm = .ok ⟨assetForm, assetExpr⟩ := by
  have hast : Ast.ofText assetForm.toList = .ok assetAst := by decide +kernel
  have hexpr : Expr.elaborate .initial assetAst =
      .ok (assetExpr, { Flags.initial with caseInsensitive := true }) := rfl
  exact bind_eq_ok.mpr ⟨_, hast, bind_eq_ok.mpr ⟨_, hexpr, rfl⟩⟩

theorem toNat_lt_of_foldExtensionChar {c : Char} (h : (foldExtensionChar c).toNat < 0x80) :
    c.toNat < 0x80 ∨ c = '\u017f' ∨ c = '\u212a' := by
  unfold foldExtensionChar at h
  split at h
  next hlong => exact .inr (.inl hlong)
  next => exact .inl (Unicode.toNat_lt_of_toLower h)

/-- The characters that a letter of an extension stands for are those that fold to it. -/
theorem contains_extensionLetter {d : Char} (hd : d ∈ ".gifjpencso".toList) (c : Char) :
    (CharSet.folded (.only d)).contains c = (foldExtensionChar c == d) := by
  have hall : ".gifjpencso".toList.all (CharSet.isFoldOf foldExtensionChar) = true := by
    decide +kernel
  exact CharSet.contains_of_isFoldOf (fun _ => toNat_lt_of_foldExtensionChar)
    (List.all_eq_true.mp hall d hd) c

theorem mem_language_letter {d : Char} (hd : d ∈ ".gifjpencso".toList) :
    word ∈ (letterExpr d).language ↔ word.map foldExtensionChar = [d] := by
  rw [List.map_eq_singleton_iff]
  constructor
  · rintro ⟨c, hc, rfl⟩
    rw [contains_extensionLetter hd, beq_iff_eq] at hc
    exact ⟨c, rfl, hc⟩
  · rintro ⟨c, rfl, hc⟩
    refine ⟨c, ?_, rfl⟩
    rw [contains_extensionLetter hd, beq_iff_eq]
    exact hc

theorem mem_language_word {letters : List Char} (hletters : letters ⊆ ".gifjpencso".toList) :
    word ∈ (wordExpr letters).language ↔ word.map foldExtensionChar = letters := by
  fun_induction wordExpr letters generalizing word with
  | case1 => rw [Expr.language, Language.mem_one, List.map_eq_nil_iff]
  | case2 c => exact mem_language_letter (hletters List.mem_cons_self)
  | case3 c others _ ih =>
      obtain ⟨hc, hothers⟩ := List.cons_subset.mp hletters
      rw [Expr.language, Language.mem_mul, ← List.singleton_append, List.map_eq_append_iff]
      constructor
      · rintro ⟨first, hfirst, rest, hrest, rfl⟩
        exact ⟨first, rest, rfl, (mem_language_letter hc).mp hfirst, (ih hothers).mp hrest⟩
      · rintro ⟨first, rest, rfl, hfirst, hrest⟩
        exact ⟨first, (mem_language_letter hc).mpr hfirst, rest, (ih hothers).mpr hrest, rfl⟩

/-- The letter that may be missing makes two words of one. -/
theorem language_jpeg : (Expr.cat (letterExpr 'j') <| .cat (letterExpr 'p') <|
    .cat (.repeated (letterExpr 'e') 0 (some 1) true) (letterExpr 'g')).language =
      (wordExpr "jpg".toList).language + (wordExpr "jpeg".toList).language := by
  change (letterExpr 'j').language * ((letterExpr 'p').language *
    ((Expr.repeated (letterExpr 'e') 0 (some 1) true).language * (letterExpr 'g').language)) = _
  rw [Expr.language_optional, add_mul, one_mul, mul_add, mul_add]
  rfl

theorem mem_language_extension : word ∈ extensionExpr.language ↔
    word.map foldExtensionChar ∈ assetExtensions := by
  change word ∈ (wordExpr _).language + (Expr.language (.cat _ _) + ((wordExpr _).language +
    ((wordExpr _).language + ((wordExpr _).language + (wordExpr _).language)))) ↔ _
  rw [language_jpeg]
  simp only [Language.mem_add]
  repeat rw [mem_language_word (by decide)]
  simp [assetExtensions, or_assoc]

/-! ### The last dot -/

theorem extension?_of_not_mem (h : '.' ∉ text) : extension? text = none := by
  induction text with
  | nil => rfl
  | cons c rest ih =>
      rw [List.mem_cons, not_or] at h
      rw [extension?, ih h.2]
      exact if_neg (Ne.symm h.1)

/-- The extension is the text behind the last dot. -/
theorem extension?_append (front : List Char) {extension : List Char} (h : '.' ∉ extension) :
    extension? (front ++ '.' :: extension) = some extension := by
  induction front with
  | nil =>
      rw [List.nil_append, extension?, extension?_of_not_mem h]
      exact if_pos rfl
  | cons c front ih => rw [List.cons_append, extension?, ih]

theorem exists_of_extension? {extension : List Char} (h : extension? text = some extension) :
    ∃ front, text = front ++ '.' :: extension := by
  induction text with
  | nil => cases h
  | cons c rest ih =>
      rw [extension?] at h
      cases hrest : extension? rest with
      | some found =>
          rw [hrest] at h ih
          obtain ⟨front, hfront⟩ := ih h
          exact ⟨c :: front, by rw [hfront, List.cons_append]⟩
      | none =>
          rw [hrest] at h
          obtain ⟨rfl, h⟩ := Option.ite_none_right_eq_some.mp h
          exact ⟨[], by rw [Option.some.inj h, List.nil_append]⟩

theorem eq_dot {c : Char} (h : foldExtensionChar c = '.') : c = '.' := by
  unfold foldExtensionChar at h
  split at h
  next => cases h
  next => exact Text.eq_of_toLower (by decide) h

theorem dot_not_mem {extension : List Char}
    (h : extension.map foldExtensionChar ∈ assetExtensions) : '.' ∉ extension := by
  intro hmem
  have hall : assetExtensions.all (fun letters => !letters.contains '.') = true := by
    decide +kernel
  have hdot := List.all_eq_true.mp hall _ h
  have hfold : foldExtensionChar '.' = '.' := rfl
  have hletters := List.mem_map_of_mem (f := foldExtensionChar) hmem
  rw [hfold] at hletters
  simp only [Bool.not_eq_true', List.contains_eq_mem, decide_eq_false_iff_not] at hdot
  exact hdot hletters

theorem isStaticAsset_iff {path : String} : isStaticAsset path = true ↔
    ∃ front extension, path.toList = front ++ '.' :: extension ∧
      extension.map foldExtensionChar ∈ assetExtensions := by
  unfold isStaticAsset
  rw [Option.any_eq_true]
  constructor
  · rintro ⟨extension, hextension, hmem⟩
    obtain ⟨front, hpath⟩ := exists_of_extension? hextension
    exact ⟨front, extension, hpath, List.contains_iff_mem.mp hmem⟩
  · rintro ⟨front, extension, hpath, hmem⟩
    rw [hpath, extension?_append front (dot_not_mem hmem)]
    exact ⟨extension, rfl, List.contains_iff_mem.mpr hmem⟩

/-! ### The search -/

theorem of_steps_assetExpr (h : Steps assetExpr s t) : ∃ extension,
    s.cursor.rest = '.' :: extension ∧ extension.map foldExtensionChar ∈ assetExtensions := by
  obtain ⟨s, hempty, h⟩ := Expr.steps_cat_iff.mp h
  cases hempty
  obtain ⟨u, hdot, h⟩ := Expr.steps_cat_iff.mp h
  obtain ⟨hletters, hend⟩ := Expr.steps_atEnd_iff.mp h
  obtain ⟨dot, hmark, hrest⟩ := hdot.consumes rfl
  obtain ⟨extension, hextension, hlast⟩ := hletters.consumes rfl
  rw [hend, List.append_nil] at hlast
  obtain ⟨c, rfl, hc⟩ := List.map_eq_singleton_iff.mp ((mem_language_letter (by decide)).mp hmark)
  rw [eq_dot hc] at hrest
  exact ⟨extension, hrest.trans (congrArg _ hlast), mem_language_extension.mp hextension⟩

theorem exists_steps_assetExpr {extension : List Char} (h : s.cursor.rest = '.' :: extension)
    (hmem : extension.map foldExtensionChar ∈ assetExtensions) : ∃ t, Steps assetExpr s t := by
  rw [← List.singleton_append, ← List.append_nil extension] at h
  obtain ⟨u, hdot, hu⟩ := Expr.exists_steps ((mem_language_letter (by decide)).mpr rfl) h
  obtain ⟨t, hletters, ht⟩ := Expr.exists_steps (mem_language_extension.mpr hmem) hu
  exact ⟨t, .cat (.empty s) (.cat hdot (Expr.steps_atEnd_iff.mpr ⟨hletters, ht⟩))⟩

/-- A path is that of a static asset exactly if the pattern matches. -/
theorem isStaticAsset_reads : ∃ regex, Regex.compile assetForm = .ok regex ∧
    ∀ path, isStaticAsset path = (regex.captures path).isSome := by
  refine ⟨_, compile_assetForm, fun path => ?_⟩
  rw [Regex.captures, Option.isSome_map, Bool.eq_iff_iff, isStaticAsset_iff]
  constructor
  · rintro ⟨front, extension, hpath, hmem⟩
    let cursor : Cursor := ⟨front.length, front.getLast?, '.' :: extension⟩
    have hon : cursor.On path.toList := ⟨front, hpath, rfl, rfl⟩
    obtain ⟨t, ht⟩ := @exists_steps_assetExpr ⟨cursor, []⟩ _ rfl hmem
    exact Expr.search_isSome hon ht
  · intro hsome
    obtain ⟨t, hsearch⟩ := Option.isSome_iff_exists.mp hsome
    obtain ⟨cursor, ⟨front, hpath, -⟩, hsteps⟩ := Expr.search_sound hsearch
    obtain ⟨extension, hrest, hmem⟩ := of_steps_assetExpr hsteps
    exact ⟨front, extension, hpath.trans (congrArg (front ++ ·) hrest), hmem⟩

end Waymark.Request
