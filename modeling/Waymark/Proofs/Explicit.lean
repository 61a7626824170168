import Waymark.Proofs.Build
import Waymark.Proofs.Text.Decoding

/-! # Which requests name their controller

The first parameter `controller` in the query of a request says whether the request names its
controller. Its value does so if it is a name, or a name with one parameter of its own; a later
parameter of that name, the path, the routes and the settings do not count. Only ASCII letters,
digits, underscores and hyphens make a name, and a hyphen is left out of the controller.
-/

namespace Waymark

namespace Request

/-- An ASCII letter, a digit, an underscore or a hyphen. -/
def NameChar (c : Char) : Prop :=
  '0' ≤ c ∧ c ≤ '9' ∨ 'A' ≤ c ∧ c ≤ 'Z' ∨ 'a' ≤ c ∧ c ≤ 'z' ∨ c = '_' ∨ c = '-'

/-- One or more such characters. -/
structure IsName (text : List Char) : Prop where
  nonempty : text ≠ []
  chars : ∀ c ∈ text, NameChar c

/-- The values that name a controller, with its name and parameters: the mere name, or the name, a
question mark and one parameter that is split at its first equals sign. -/
inductive Names : (value name : List Char) → Params → Prop
  | plain {name : List Char} (hname : IsName name) : Names name name .empty
  | withParam {name key assigned : List Char} (hname : IsName name) (hequals : '=' ∉ key)
      (hkey : '\n' ∉ key) (hassigned : '\n' ∉ assigned) :
      Names (name ++ '?' :: (key ++ '=' :: assigned)) name
        (.ofList [(String.ofList key, String.ofList assigned)])

/-- The value that the first parameter of a name has in a query. -/
def FirstValue (query name value : List Char) : Prop :=
  ∃ before after, Text.Form.parse query = before ++ (name, value) :: after ∧
    ∀ pair ∈ before, pair.1 ≠ name

/-- The first value of a name by the pairs that the query is told to stand for. -/
theorem firstValue_iff {query name value : List Char} : FirstValue query name value ↔
    ∃ before after, Text.Form.Reads query (before ++ (name, value) :: after) ∧
      ∀ pair ∈ before, pair.1 ≠ name := by
  simp only [FirstValue, Text.Form.reads_iff]

theorem isNameChar_iff {c : Char} : isNameChar c = true ↔ NameChar c := by
  unfold isNameChar NameChar Char.isAlphanum Char.isAlpha Char.isUpper Char.isLower Char.isDigit
  simp only [Bool.or_eq_true, Bool.and_eq_true, decide_eq_true_eq, beq_iff_eq, Char.le_def,
    ge_iff_le, or_assoc]
  change ('A' ≤ c ∧ c ≤ 'Z' ∨ 'a' ≤ c ∧ c ≤ 'z' ∨ '0' ≤ c ∧ c ≤ '9' ∨ c = '_' ∨ c = '-') ↔
    ('0' ≤ c ∧ c ≤ '9' ∨ 'A' ≤ c ∧ c ≤ 'Z' ∨ 'a' ≤ c ∧ c ≤ 'z' ∨ c = '_' ∨ c = '-')
  tauto

theorem isControllerName_iff {text : List Char} : isControllerName text = true ↔ IsName text := by
  unfold isControllerName
  rw [Bool.and_eq_true, List.all_eq_true, Bool.not_eq_true', List.isEmpty_eq_false_iff]
  constructor
  · rintro ⟨hnonempty, hchars⟩
    exact ⟨hnonempty, fun c hc => isNameChar_iff.mp (hchars c hc)⟩
  · rintro ⟨hnonempty, hchars⟩
    exact ⟨hnonempty, fun c hc => isNameChar_iff.mpr (hchars c hc)⟩

theorem IsName.questionMark_not_mem {name : List Char} (h : IsName name) : '?' ∉ name :=
  questionMark_not_mem_of_isControllerName (isControllerName_iff.mpr h)

theorem Names.isName {value name : List Char} {params : Params} (h : Names value name params) :
    IsName name := by
  cases h with
  | plain hname => exact hname
  | withParam hname => exact hname

/-- A name with a parameter is read in one way only. -/
theorem legacyForm?_eq_some {value name key assigned : List Char} :
    legacyForm? value = some (name, key, assigned) ↔
      value = name ++ '?' :: (key ++ '=' :: assigned) ∧ IsName name ∧ '=' ∉ key ∧
        '\n' ∉ key ∧ '\n' ∉ assigned := by
  constructor
  · intro h
    unfold legacyForm? at h
    split at h
    next => cases h
    next before rest hmark =>
      split at h
      next => cases h
      next before' after hequals =>
        split at h
        next hvalid =>
          cases h
          obtain ⟨rfl, -⟩ := Text.splitFirst_eq_some_iff.mp hmark
          obtain ⟨rfl, hkey⟩ := Text.splitFirst_eq_some_iff.mp hequals
          simp only [Bool.and_eq_true, Bool.not_eq_true', List.contains_eq_mem,
            decide_eq_false_iff_not] at hvalid
          exact ⟨rfl, isControllerName_iff.mp hvalid.1.1, hkey, hvalid.1.2, hvalid.2⟩
        next => cases h
  · rintro ⟨rfl, hname, hequals, hkey, hassigned⟩
    unfold legacyForm?
    rw [Text.splitFirst_eq_some_iff.mpr ⟨rfl, hname.questionMark_not_mem⟩]
    dsimp only
    rw [Text.splitFirst_eq_some_iff.mpr ⟨rfl, hequals⟩]
    simp [isControllerName_iff.mpr hname, hkey, hassigned]

theorem named?_eq_some {value : List Char} {named : String × Params} :
    named? value = some named ↔
      ∃ name params, Names value name params ∧ named = (String.ofList name, params) := by
  constructor
  · intro h
    unfold named? at h
    split at h
    next name key assigned hlegacy =>
      obtain ⟨rfl, hname, hequals, hkey, hassigned⟩ := legacyForm?_eq_some.mp hlegacy
      cases h
      exact ⟨name, _, .withParam hname hequals hkey hassigned, rfl⟩
    next =>
      split at h
      next hname =>
        cases h
        exact ⟨value, _, .plain (isControllerName_iff.mp hname), rfl⟩
      next => cases h
  · rintro ⟨name, params, hnames, rfl⟩
    cases hnames with
    | plain hname => exact named?_of_isControllerName (isControllerName_iff.mpr hname)
    | withParam hname hequals hkey hassigned =>
        unfold named?
        rw [legacyForm?_eq_some.mpr ⟨rfl, hname, hequals, hkey, hassigned⟩]

theorem find?_eq_some_iff_firstValue {query name : List Char} {pair : List Char × List Char} :
    ((Text.Form.parse query).find? fun pair => pair.1 = name) = some pair ↔
      pair.1 = name ∧ FirstValue query name pair.2 := by
  obtain ⟨key, value⟩ := pair
  rw [List.find?_eq_some_iff_append, decide_eq_true_eq]
  refine and_congr_right fun (hkey : key = name) => ?_
  subst hkey
  unfold FirstValue
  simp

theorem explicitController?_eq_some {query : List Char} {named : String × Params} :
    explicitController? query = some named ↔
      ∃ value name params, FirstValue query "controller".toList value ∧
        Names value name params ∧ named = (String.ofList name, params) := by
  rw [explicitController?_eq, Option.bind_eq_some_iff]
  constructor
  · rintro ⟨⟨key, value⟩, hfind, hnamed⟩
    obtain ⟨-, hfirst⟩ := find?_eq_some_iff_firstValue.mp hfind
    obtain ⟨name, params, hnames, rfl⟩ := named?_eq_some.mp hnamed
    exact ⟨value, name, params, hfirst, hnames, rfl⟩
  · rintro ⟨value, name, params, hfirst, hnames, rfl⟩
    exact ⟨("controller".toList, value), find?_eq_some_iff_firstValue.mpr ⟨rfl, hfirst⟩,
      named?_eq_some.mpr ⟨name, params, hnames, rfl⟩⟩

end Request

namespace Resolve

open Request (FirstValue IsName NameChar Names)

/-- The match for a controller that a query names. -/
def namedMatch (query name : List Char) (params : Params) : RouteMatch where
  routeId := String.ofList name
  controller := String.ofList (name.filter (· ≠ '-'))
  params
  moduleDispatch := decide (("fc".toList, "module".toList) ∈ Text.Form.parse query)
  localeCode := none
  source := .explicit

/-- A module is asked for exactly if the query stands for a parameter `fc` with that value. -/
theorem moduleDispatch_namedMatch {query name : List Char} {params : Params} :
    (namedMatch query name params).moduleDispatch = true ↔
      ∃ pairs, Text.Form.Reads query pairs ∧ ("fc".toList, "module".toList) ∈ pairs := by
  simp only [namedMatch, decide_eq_true_eq, Text.Form.reads_iff, exists_eq_left']

theorem explicitMatch?_eq_some {path : String} {found : RouteMatch} :
    explicitMatch? path = some found ↔ ∃ before query value name params,
      path.toList = before ++ '?' :: query ∧ '?' ∉ before ∧
        FirstValue query "controller".toList value ∧ Names value name params ∧
        found = namedMatch query name params := by
  unfold explicitMatch? Request.rawQuery?
  simp only [Option.bind_eq_some_iff, Option.map_eq_some_iff, Request.explicitController?_eq_some,
    Request.asksForModule_eq, Request.controllerName]
  constructor
  · rintro ⟨query, ⟨⟨before, _⟩, hsplit, rfl⟩, named, ⟨value, name, params, hfirst, hnames, rfl⟩,
      rfl⟩
    obtain ⟨hpath, hbefore⟩ := Text.splitFirst_eq_some_iff.mp hsplit
    refine ⟨before, _, value, name, params, hpath, hbefore, hfirst, hnames, ?_⟩
    rw [String.toList_ofList]
    rfl
  · rintro ⟨before, query, value, name, params, hpath, hbefore, hfirst, hnames, rfl⟩
    refine ⟨query, ⟨_, Text.splitFirst_eq_some_iff.mpr ⟨hpath, hbefore⟩, rfl⟩, _,
      ⟨value, name, params, hfirst, hnames, rfl⟩, ?_⟩
    rw [String.toList_ofList]
    rfl

/-- A request has an explicit match exactly if the first parameter `controller` of its query names
a controller. The match is the one for that controller, whatever the routes, the entities and the
settings are, and its route id is made of nothing but the characters of names. -/
theorem resolve_explicit_iff (table : Table) (entities : EntityResolver) (settings : Settings)
    (context : RequestContext) :
    (∀ found, (resolve table entities settings context).outcome = .ok (.matched found) ∧
        found.source = .explicit ↔
      ∃ before query value name params, context.path.toList = before ++ '?' :: query ∧
        '?' ∉ before ∧ FirstValue query "controller".toList value ∧ Names value name params ∧
        found = namedMatch query name params) ∧
    ∀ found, (resolve table entities settings context).outcome = .ok (.matched found) →
      found.source = .explicit → ∀ c ∈ found.routeId.toList, NameChar c := by
  constructor
  · intro found
    rw [← explicitMatch?_eq_some]
    constructor
    · rintro ⟨hresolve, hsource⟩
      exact explicitMatch?_of_source hresolve hsource
    · intro hexplicit
      exact ⟨resolve_of_explicitMatch? hexplicit, source_of_explicitMatch? hexplicit⟩
  · intro found hresolve hsource
    obtain ⟨before, query, value, name, params, -, -, -, hnames, rfl⟩ :=
      explicitMatch?_eq_some.mp (explicitMatch?_of_source hresolve hsource)
    change ∀ c ∈ (String.ofList name).toList, NameChar c
    rw [String.toList_ofList]
    exact hnames.isName.chars

/-- The first of two controllers is asked for, with a parameter of its own. -/
example : explicitMatch? "/x?a=1&controller=my-page%3Fid%3D2=3&fc=module&controller=cart" =
    some ⟨"my-page", "mypage", .ofList [("id", "2=3")], true, none, .explicit⟩ := by
  decide +kernel

end Resolve

end Waymark
