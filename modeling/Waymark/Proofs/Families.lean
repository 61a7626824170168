import Mathlib.Tactic.ByContra
import Waymark.Families
import Waymark.Proofs.Request.Normalize
import Waymark.Proofs.Route.Acceptance

/-! # The built-in families

Their fragments are sets of characters and repetitions, read once and for all here. The largest
of the sets hold all letters and symbols; a rule of the built-in families has room for them, so
the families compile. Each has a separator among its literals, so none accepts a single word.
-/

namespace Waymark

open Pattern Rule

namespace Keyword

/-- A keyword can stand in any rule and adds at most a size to it. -/
structure Within (k : Keyword) (n : Nat) : Prop where
  usable : k.Usable
  size_le : k.size ≤ n

/-- What a fragment reads as and means decides whether a keyword is usable. -/
theorem within_of_reads {k : Keyword} {ast : Ast} {expr : Expr} {n : Nat}
    (hast : Ast.ofText k.regexp.toList = .ok ast)
    (hplain : ast.isPlain = true ∧ ast.groupNames = [] ∧ ast.depth .other + 5 ≤ Ast.maxDepth)
    (hexpr : Expr.elaborate .initial ast = .ok (expr, .initial)) (hsize : expr.size ≤ n)
    (hn : n ≤ Expr.maxSize)
    (hparam : ∀ param, k.param = some param → Read.isGroupName param.toList = true) :
    k.Within n := by
  have hregex : Regex.compile k.regexp = .ok ⟨k.regexp, expr⟩ := by
    refine bind_eq_ok.mpr ⟨ast, hast, bind_eq_ok.mpr ⟨_, hexpr, ?_⟩⟩
    dsimp only
    rw [if_neg (Nat.not_lt.mpr (Nat.le_trans hsize hn))]
    rfl
  obtain ⟨hplain, hnames, hdepth⟩ := hplain
  refine ⟨⟨⟨⟨ast, hast, hplain, hnames⟩, ⟨_, hregex⟩⟩, ?_, hparam⟩, ?_⟩
  · rwa [tree, hast]
  · rwa [size, hregex]

end Keyword

namespace Families

/-- More than any fragment of a built-in family takes. -/
def fragmentSize : Nat := 2300000

/-- Letters of any script. -/
def letters : CharSet := .property (Unicode.ofCategories Unicode.letterCategories)

/-- Symbols of any kind. -/
def symbols : CharSet := .property (Unicode.ofCategories Unicode.symbolCategories)

/-- ASCII letters and digits and the underscore, as the built-in fragments write them. -/
def asciiChars : CharSet :=
  .union (.union (.union (.only '_') (.range 'a' 'z')) (.range 'A' 'Z')) (.range '0' '9')

theorem size_letters : letters.size ≤ 64 + 64 * (5 * 5300) :=
  CharSet.size_property_le Unicode.fits_letters

theorem size_symbols : symbols.size ≤ 64 + 64 * (4 * 2000) :=
  CharSet.size_property_le Unicode.fits_symbols

/-- Any number of characters of a set take little more than the set. -/
theorem size_star (set : CharSet) :
    (Expr.repeated (.one set) 0 none true).size = 72 + set.size := by
  simp [Expr.size]

section Bound

variable {param : String}

theorem within_number (h : Read.isGroupName param.toList = true) :
    (bound number param).Within fragmentSize :=
  Keyword.within_of_reads (by cbv) (by decide) rfl (by decide) (by decide) (by rintro _ ⟨⟩; exact h)

theorem within_slug (h : Read.isGroupName param.toList = true) :
    (bound slug param).Within fragmentSize :=
  Keyword.within_of_reads (by cbv) (by decide) rfl (by decide) (by decide) (by rintro _ ⟨⟩; exact h)

theorem within_anything (h : Read.isGroupName param.toList = true) :
    (bound ".*" param).Within fragmentSize :=
  Keyword.within_of_reads (by cbv) (by decide) rfl (by decide) (by decide) (by rintro _ ⟨⟩; exact h)

end Bound

theorem within_slugText : (cosmetic slugText).Within fragmentSize := by
  refine Keyword.within_of_reads (by cbv) (by decide) rfl ?_ (by decide) nofun
  change (Expr.repeated (.one (.union (.union (.union asciiChars letters) symbols) (.only '-')))
    0 none true).size ≤ fragmentSize
  have hletters := size_letters
  have hsymbols := size_symbols
  have hascii : asciiChars.size = 224 := by decide
  have hhyphen : (CharSet.only '-').size = 32 := by decide
  rw [size_star, CharSet.size_union, CharSet.size_union, CharSet.size_union, hascii, hhyphen,
    fragmentSize]
  omega

theorem within_wordText : (cosmetic wordText).Within fragmentSize := by
  refine Keyword.within_of_reads (by cbv) (by decide) rfl ?_ (by decide) nofun
  change (Expr.repeated (.one (.union (.union asciiChars letters) (.only '-')))
    0 none true).size ≤ fragmentSize
  have hletters := size_letters
  have hascii : asciiChars.size = 224 := by decide
  have hhyphen : (CharSet.only '-').size = 32 := by decide
  rw [size_star, CharSet.size_union, CharSet.size_union, hascii, hhyphen, fragmentSize]
  omega

theorem within_code : (cosmetic "[0-9\\pL]*").Within fragmentSize := by
  refine Keyword.within_of_reads (by cbv) (by decide) rfl ?_ (by decide) nofun
  change (Expr.repeated (.one (.union (.range '0' '9') letters)) 0 none true).size ≤ fragmentSize
  have hletters := size_letters
  have hdigits : (CharSet.range '0' '9').size = 64 := by decide
  rw [size_star, CharSet.size_union, hdigits, fragmentSize]
  omega

/-! ## Rules -/

/-- How much a segment over built-in fragments adds to the size of a pattern at most. -/
def segmentBound : Segment → Nat
  | .literal text => Route.literalSize text
  | .placeholder p => 232 + Route.literalSize p.prepend + fragmentSize + Route.literalSize p.append

theorem compile_of_within {t : Template} {segments : List Segment}
    (h : Rule.segments t = .ok segments)
    (hwithin : ∀ p ∈ Segment.placeholders segments, p.spec.Within fragmentSize)
    (hparams : (Segment.params segments).Nodup)
    (hsize : 128 + (segments.map segmentBound).sum ≤ Expr.maxSize) :
    ∃ regex, Route.compile t = .ok ⟨t, regex, segments⟩ := by
  have hsum : (segments.map Route.segmentSize).sum ≤ (segments.map segmentBound).sum := by
    apply List.sum_le_sum
    intro segment hsegment
    cases segment with
    | literal => exact Nat.le_refl _
    | placeholder p =>
        have hle := (hwithin p (List.mem_filterMap.mpr ⟨_, hsegment, rfl⟩)).size_le
        simp only [Route.segmentSize, segmentBound]
        omega
  exact Route.compile_of_usable h (fun p hp => (hwithin p hp).usable) hparams (by omega)

/-- The placeholder of a number that is bound to a parameter. -/
def idPlaceholder (param : String) : Placeholder := ⟨"id", bound number param, "", ""⟩

/-- The placeholder of the words that embellish a URL. -/
def rewritePlaceholder : Placeholder := ⟨"rewrite", cosmetic slugText, "", ""⟩

/-- The placeholder of the name of a module. -/
def modulePlaceholder : Placeholder := ⟨"module", bound slug "module", "", ""⟩

/-- The placeholder of a controller inside a module, with an affix in front of it. -/
def controllerPlaceholder (front : String) : Placeholder :=
  ⟨"controller", bound slug "controller", front, ""⟩

/-- The placeholder of the filters that narrow a category down. -/
def filtersPlaceholder : Placeholder :=
  ⟨"selected_filters", bound ".*" "selected_filters", "/", ""⟩

/-- The segments of a rule for content entities: a number and a text, behind some others. -/
def entitySegments (front : List Segment) (param separator : String) : List Segment :=
  front ++ [.placeholder (idPlaceholder param), .literal separator, .placeholder rewritePlaceholder]

theorem params_eq (segments : List Segment) : Segment.params segments =
    (Segment.placeholders segments).filterMap fun p => p.spec.param := by
  unfold Segment.params Segment.placeholders
  rw [List.filterMap_filterMap]
  apply List.filterMap_congr
  intro segment _
  cases segment <;> rfl

/-- A rule has these segments, and there is room for them in a pattern. -/
structure Fits (t : Template) (segments : List Segment) : Prop where
  segments_eq : Rule.segments t = .ok segments
  within : ∀ p ∈ Segment.placeholders segments, p.spec.Within fragmentSize
  params_nodup : (Segment.params segments).Nodup
  size_le : 128 + (segments.map segmentBound).sum ≤ Expr.maxSize

namespace Fits

variable {t : Template} {segments : List Segment}

theorem compile (h : Fits t segments) : ∃ regex, Route.compile t = .ok ⟨t, regex, segments⟩ :=
  compile_of_within h.segments_eq h.within h.params_nodup h.size_le

theorem segments_of_compile (h : Fits t segments) {r : Route} (hcompile : Route.compile t = .ok r) :
    r.segments = segments := by
  obtain ⟨-, hsegments, -⟩ := Route.compile_eq_ok hcompile
  exact Except.ok.inj (hsegments.symm.trans h.segments_eq)

theorem selfContained (h : Fits t segments) {r : Route} (hcompile : Route.compile t = .ok r) :
    ∀ segment ∈ r.segments, segment.SelfContained := by
  refine Route.selfContained_of_placeholders fun p hp => ?_
  rw [Route.placeholders, h.segments_of_compile hcompile] at hp
  exact (h.within p hp).usable.selfContained

end Fits

/-- Rules for content entities fit. -/
theorem fits_of_entity {t : Template} {front : List Segment} {param separator : String}
    (h : Rule.segments t = .ok (entitySegments front param separator))
    (hfront : Segment.placeholders front = []) (hname : Read.isGroupName param.toList = true)
    (hsize : 128 + ((entitySegments front param separator).map segmentBound).sum ≤ Expr.maxSize) :
    Fits t (entitySegments front param separator) := by
  have hplaceholders : Segment.placeholders (entitySegments front param separator) =
      [idPlaceholder param, rewritePlaceholder] := by
    unfold Segment.placeholders at hfront ⊢
    rw [entitySegments, List.filterMap_append, hfront]
    rfl
  refine ⟨h, ?_, ?_, hsize⟩
  · rw [hplaceholders]
    exact List.forall_mem_cons.mpr ⟨within_number hname,
      List.forall_mem_cons.mpr ⟨within_slugText, nofun⟩⟩
  · rw [params_eq, hplaceholders]
    exact List.nodup_singleton param

theorem fits_category : Fits category (entitySegments [] "id_category" "-") :=
  fits_of_entity (by decide +kernel) rfl (Read.isGroupName_of_lower (by decide) (by decide))
    (by decide)

theorem fits_supplier : Fits supplier (entitySegments [] "id_supplier" "__") :=
  fits_of_entity (by decide +kernel) rfl (Read.isGroupName_of_lower (by decide) (by decide))
    (by decide)

theorem fits_manufacturer : Fits manufacturer (entitySegments [] "id_manufacturer" "_") :=
  fits_of_entity (by decide +kernel) rfl (Read.isGroupName_of_lower (by decide) (by decide))
    (by decide)

theorem fits_contentPage :
    Fits contentPage (entitySegments [.literal "content/"] "id_cms" "-") :=
  fits_of_entity (by decide +kernel) rfl (Read.isGroupName_of_lower (by decide) (by decide))
    (by decide)

theorem fits_contentCategory : Fits contentCategory
    (entitySegments [.literal "content/category/"] "id_cms_category" "-") :=
  fits_of_entity (by decide +kernel) rfl (Read.isGroupName_of_lower (by decide) (by decide))
    (by decide)

theorem fits_moduleFamily : Fits moduleFamily [.literal "module/", .placeholder modulePlaceholder,
    .placeholder (controllerPlaceholder "/")] := by
  refine ⟨by decide +kernel, ?_, by decide, by decide⟩
  exact List.forall_mem_cons.mpr
    ⟨within_slug (Read.isGroupName_of_lower (by decide) (by decide)), List.forall_mem_cons.mpr
      ⟨within_slug (Read.isGroupName_of_lower (by decide) (by decide)), nofun⟩⟩

theorem compile_moduleFamily : ∃ regex, Route.compile moduleFamily =
    .ok ⟨moduleFamily, regex, [.literal "module/", .placeholder modulePlaceholder,
      .placeholder (controllerPlaceholder "/")]⟩ :=
  fits_moduleFamily.compile

theorem fits_product : Fits product [.placeholder ⟨"category", cosmetic wordText, "", "/"⟩,
    .placeholder (idPlaceholder "id_product"), .literal "-", .placeholder rewritePlaceholder,
    .placeholder ⟨"ean13", cosmetic "[0-9\\pL]*", "-", ""⟩, .literal ".html"] := by
  refine ⟨by decide +kernel, ?_, by decide, by decide⟩
  have hid : (idPlaceholder "id_product").spec.Within fragmentSize :=
    within_number (Read.isGroupName_of_lower (by decide) (by decide))
  exact List.forall_mem_cons.mpr ⟨within_wordText, List.forall_mem_cons.mpr ⟨hid,
    List.forall_mem_cons.mpr ⟨within_slugText, List.forall_mem_cons.mpr ⟨within_code, nofun⟩⟩⟩⟩

theorem fits_layered : Fits layered (entitySegments [] "id_category" "-" ++
    [.placeholder filtersPlaceholder]) := by
  refine ⟨by decide +kernel, ?_, by decide, by decide⟩
  have hid : (idPlaceholder "id_category").spec.Within fragmentSize :=
    within_number (Read.isGroupName_of_lower (by decide) (by decide))
  have hfilters : (bound ".*" "selected_filters").Within fragmentSize :=
    within_anything (Read.isGroupName_of_lower (by decide) (by decide))
  exact List.forall_mem_cons.mpr ⟨hid, List.forall_mem_cons.mpr ⟨within_slugText,
    List.forall_mem_cons.mpr ⟨hfilters, nofun⟩⟩⟩

theorem compile_layered : ∃ regex, Route.compile layered =
    .ok ⟨layered, regex, entitySegments [] "id_category" "-" ++
      [.placeholder filtersPlaceholder]⟩ :=
  fits_layered.compile

/-- Whether a character sets the parts of a path off from each other. -/
def isSeparator (c : Char) : Bool := c == '-' || c == '_' || c == '/'

/-- Every built-in family fits, and has a separator in a literal. -/
theorem fits_builtIn {t : Template} (ht : t ∈ builtIn) : ∃ segments, Fits t segments ∧
    ∃ text, .literal text ∈ segments ∧ text.toList.any isSeparator = true := by
  simp only [builtIn, List.mem_cons, List.not_mem_nil, or_false] at ht
  rcases ht with rfl | rfl | rfl | rfl | rfl | rfl | rfl | rfl
  · exact ⟨_, fits_category, "-", by simp [entitySegments], by decide⟩
  · exact ⟨_, fits_supplier, "__", by simp [entitySegments], by decide⟩
  · exact ⟨_, fits_manufacturer, "_", by simp [entitySegments], by decide⟩
  · exact ⟨_, fits_contentPage, "-", by simp [entitySegments], by decide⟩
  · exact ⟨_, fits_contentCategory, "-", by simp [entitySegments], by decide⟩
  · exact ⟨_, fits_moduleFamily, "module/", by simp, by decide⟩
  · exact ⟨_, fits_product, "-", by simp, by decide⟩
  · exact ⟨_, fits_layered, "-", by simp [entitySegments], by decide⟩

/-- Every built-in family compiles. -/
theorem compiles_builtIn {t : Template} (ht : t ∈ builtIn) : ∃ r, Route.compile t = .ok r := by
  obtain ⟨segments, hfits, -⟩ := fits_builtIn ht
  obtain ⟨regex, hcompile⟩ := hfits.compile
  exact ⟨_, hcompile⟩

/-- No built-in family accepts a word without separators. -/
theorem captures_of_word {t : Template} (ht : t ∈ builtIn) {r : Route}
    (h : Route.compile t = .ok r) {word : String}
    (hword : word.toList.any isSeparator = false) : r.captures ("/" ++ word) = none := by
  obtain ⟨segments, hfits, text, htext, hany⟩ := fits_builtIn ht
  obtain ⟨c, hc, hseparator⟩ := List.any_eq_true.mp hany
  by_contra hsome
  obtain ⟨rest, found, hpath, hdecomposes⟩ :=
    (Route.isSome_captures_iff h (hfits.selfContained h) _).mp (Option.isSome_iff_ne_none.mpr hsome)
  rw [Request.toList_slash] at hpath
  cases hpath
  rw [hfits.segments_of_compile h] at hdecomposes
  exact List.any_eq_false.mp hword c (hdecomposes.mem_of_literal htext c hc) hseparator

end Families

end Waymark
