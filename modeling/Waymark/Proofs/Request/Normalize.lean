import Waymark.Proofs.Text.Form
import Waymark.Request.Normalize
import Waymark.Request.Asset

/-! # Requests for relative paths

A text without escapes and without slashes at its ends, sent as a request, is brought into
normal form by a slash in front. Whatever stands behind a question mark has no part in it.
-/

namespace Waymark.Request

/-- A text that is a path relative to the mount point of a tenant, and is in normal form up to the
slash in front. -/
structure Relative (text : List Char) : Prop where
  nonempty : text ≠ []
  query : '?' ∉ text
  escape : '%' ∉ text
  front : text.head? ≠ some '/'
  back : text.getLast? ≠ some '/'

theorem Relative.ne_empty {path : String} (h : Relative path.toList) : path ≠ "" := by
  rintro rfl
  exact h.nonempty rfl

/-- A URL that is asked for as a path of its own: it has no query and no escapes, and it is neither
the front script nor a static asset. -/
structure IsPath (url : String) : Prop where
  nonempty : url ≠ ""
  query : '?' ∉ url.toList
  escape : '%' ∉ url.toList
  notScript : url ≠ "index.php"
  notAsset : isStaticAsset url = false

theorem IsPath.relative {url : String} (h : IsPath url) (hfront : url.toList.head? ≠ some '/')
    (hback : url.toList.getLast? ≠ some '/') : Relative url.toList :=
  ⟨mt String.toList_eq_nil_iff.mp h.nonempty, h.query, h.escape, hfront, hback⟩

variable {text : List Char}

theorem rawPath_front {front : List Char} (h : '?' ∉ front) (rest : List Char) :
    rawPath (front ++ rest) = front ++ rawPath rest := by
  unfold rawPath
  rw [Text.splitFirst_append h]
  cases Text.splitFirst '?' rest <;> rfl

theorem rawQuery?_front {front : List Char} (h : '?' ∉ front) (rest : List Char) :
    rawQuery? (front ++ rest) = rawQuery? rest := by
  unfold rawQuery?
  rw [Text.splitFirst_append h]
  cases Text.splitFirst '?' rest <;> rfl

theorem rawPath_of_not_mem (h : '?' ∉ text) : rawPath text = text := by
  have hpath := rawPath_front h []
  rw [List.append_nil] at hpath
  exact hpath.trans (List.append_nil text)

theorem rawPath_append (h : '?' ∉ text) (query : List Char) :
    rawPath (text ++ '?' :: query) = text :=
  (rawPath_front h _).trans (List.append_nil text)

theorem rawQuery?_of_not_mem (h : '?' ∉ text) : rawQuery? text = none := by
  have hquery := rawQuery?_front h []
  rwa [List.append_nil] at hquery

theorem rawQuery?_append (h : '?' ∉ text) (query : List Char) :
    rawQuery? (text ++ '?' :: query) = some query :=
  rawQuery?_front h _

/-- A mount point that starts with a slash is not in front of a relative path. -/
theorem replaceBase_of_front {base : List Char} (hbase : base = [] ∨ base.head? = some '/')
    (hfront : text.head? ≠ some '/') : replaceBase base text = text := by
  unfold replaceBase
  rcases hbase with rfl | hbase
  · rfl
  · obtain ⟨rest, rfl⟩ := List.head?_eq_some_iff.mp hbase
    rw [if_neg (List.cons_ne_nil _ _)]
    cases text with
    | nil => rfl
    | cons c text =>
        -- the mount point is looked for without regard to case, which a slash does not have
        have hne : ¬ '/'.toLower = c.toLower := by
          intro heq
          exact hfront (congrArg some (Text.eq_of_toLower (by decide) heq.symm))
        rw [Text.dropLeading?, if_neg hne]

theorem withLeadingSlash_of_front (hfront : text.head? ≠ some '/') :
    withLeadingSlash text = '/' :: text := by
  unfold withLeadingSlash
  split
  next => exact absurd rfl hfront
  next => rfl

theorem dropTrailing_of_back (hnonempty : text ≠ []) (hback : text.getLast? ≠ some '/') :
    Text.dropTrailing '/' ('/' :: text) = '/' :: text := by
  obtain ⟨front, last, rfl⟩ := (List.eq_nil_or_concat text).resolve_left hnonempty
  have hlast : last ≠ '/' := by
    rintro rfl
    simp at hback
  simp [Text.dropTrailing, hlast]

/-- The normal form of a request whose path is relative. -/
theorem normalize_of_rawPath {raw base : String} (htext : Relative text)
    (hraw : rawPath raw.toList = text)
    (hbase : base.toList = [] ∨ base.toList.head? = some '/') :
    normalize raw base false =
      ⟨String.ofList ('/' :: text), none, ('/' :: text) == frontScriptPath⟩ := by
  have hmounted : mountedPath base.toList raw.toList = '/' :: text := by
    rw [mountedPath, hraw, Text.Percent.decode_eq_self htext.escape,
      replaceBase_of_front hbase htext.front, withLeadingSlash_of_front htext.front]
  unfold normalize
  rw [hmounted]
  simp only [localeAndPath, Bool.false_eq_true, if_false]
  rw [dropTrailing_of_back htext.nonempty htext.back]
  rfl

theorem toList_slash (path : String) : ("/" ++ path).toList = '/' :: path.toList := by
  rw [String.toList_append]
  rfl

theorem slash_ne_empty (path : String) : "/" ++ path ≠ "" := by
  intro hempty
  have htext := congrArg String.toList hempty
  rw [toList_slash] at htext
  cases htext

/-- A request for a relative path is brought into normal form by a slash in front. -/
theorem normalize_relative {path raw base : String} (hpath : Relative path.toList)
    (hraw : rawPath raw.toList = path.toList)
    (hbase : base.toList = [] ∨ base.toList.head? = some '/') (hscript : path ≠ "index.php") :
    normalize raw base false = ⟨"/" ++ path, none, false⟩ := by
  have hother : ('/' :: path.toList == frontScriptPath) = false := by
    rw [beq_eq_false_iff_ne]
    intro heq
    exact hscript (String.toList_inj.mp (List.cons.inj heq).2)
  rw [normalize_of_rawPath hpath hraw hbase, hother, ← toList_slash, String.ofList_toList]

theorem getLast?_dropTrailing (c : Char) (text : List Char) :
    (Text.dropTrailing c text).getLast? ≠ some c := by
  unfold Text.dropTrailing
  rw [List.getLast?_reverse]
  intro hhead
  have hnot := List.head?_dropWhile_not (· == c) text.reverse
  rw [hhead] at hnot
  simp at hnot

/-- No normal form ends with a slash, so none is a slash alone. -/
theorem back_of_normalize (raw base : String) (stripLocale : Bool) :
    (normalize raw base stripLocale).path.toList.getLast? ≠ some '/' := by
  unfold normalize
  dsimp only
  rw [String.toList_ofList]
  exact getLast?_dropTrailing '/' _

theorem extension?_slash (text : List Char) : extension? ('/' :: text) = extension? text := by
  rw [extension?]
  cases extension? text with
  | none => rfl
  | some found => rfl

theorem isStaticAsset_slash (path : String) :
    isStaticAsset ("/" ++ path) = isStaticAsset path := by
  rw [isStaticAsset, toList_slash, extension?_slash, isStaticAsset]

end Waymark.Request
