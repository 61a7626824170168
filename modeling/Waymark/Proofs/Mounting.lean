import Waymark.Proofs.Request.NormalForm
import Waymark.Proofs.Stages
import Waymark.Proofs.Text.Escape

/-! # Requests that are the same but for their writing

A request may write the mount point of its tenant in any case and may escape as many characters as
it likes. Neither has a part in the answer: the same questions are asked and the same route is
found, also where an escape that is none stands right behind the mount point.
-/

namespace Waymark

/-! ## The path below a mount point -/

namespace Request

/-- The path of a request below its mount point, which is written in any case. -/
theorem mountedPath_below {base front : List Char} (hbase : base ≠ [])
    (hfront : Text.SameUpToCase front base) (hsign : '%' ∉ front) (hmark : '?' ∉ front)
    (rest : List Char) :
    mountedPath base (front ++ rest) = '/' :: Text.Percent.decode (rawPath rest) := by
  have hspells : Text.Percent.Spells front front := .refl hsign hmark
  unfold mountedPath
  rw [rawPath_front hmark, hspells.decode_append, replaceBase_below hbase hfront]
  rfl

/-- The path of a request that begins with a spelling of a text. -/
theorem mountedPath_spelled {text spelling : List Char}
    (h : Text.Percent.Spells text spelling) (base rest : List Char) :
    mountedPath base (spelling ++ rest) =
      withLeadingSlash (replaceBase base (text ++ Text.Percent.decode (rawPath rest))) := by
  unfold mountedPath
  rw [rawPath_front h.questionMark_not_mem, h.decode_append]

end Request

/-! ## Requests with the same query and the same path -/

/-- Two requests that differ in their writing only: they have the same query, and the same path
below their mount points. -/
structure RequestContext.Alike (first second : RequestContext) : Prop where
  query : Request.rawQuery? first.path.toList = Request.rawQuery? second.path.toList
  mounted : Request.mountedPath first.baseUri.toList first.path.toList =
    Request.mountedPath second.baseUri.toList second.path.toList
  scope : first.scope = second.scope
  templatedRouting : first.templatedRouting = second.templatedRouting
  multiLocale : first.multiLocale = second.multiLocale

theorem RequestContext.Alike.resolve_eq {first second : RequestContext} (h : first.Alike second)
    (table : Table) (entities : EntityResolver) (settings : Settings) :
    resolve table entities settings first = resolve table entities settings second := by
  have hexplicit : Resolve.explicitMatch? first.path = Resolve.explicitMatch? second.path := by
    unfold Resolve.explicitMatch?
    rw [h.query]
  have hnormalize : Request.normalize first.path first.baseUri first.multiLocale =
      Request.normalize second.path second.baseUri second.multiLocale := by
    unfold Request.normalize
    rw [h.mounted, h.multiLocale]
  unfold resolve
  rw [hexplicit, hnormalize, h.scope, h.templatedRouting]

namespace Resolve

open Text (SameUpToCase)
open Text.Percent (Spells)

/-- Neither the case in which a mount point is written nor the mount point itself nor the spelling
of a path has a part in how a request is resolved: whatever table, entities and settings there are,
it has the same outcome, by the same questions. -/
theorem resolve_of_written (table : Table) (entities : EntityResolver) (settings : Settings)
    (context : RequestContext) :
    (∀ base front request : String, base ≠ "" → '%' ∉ base.toList → '?' ∉ base.toList →
      SameUpToCase front.toList base.toList →
      resolve table entities settings
          { context with path := front ++ request, baseUri := base } =
        resolve table entities settings
          { context with path := "/" ++ request, baseUri := "/" }) ∧
    ∀ text first second behind : String, Spells text.toList first.toList →
      Spells text.toList second.toList →
      resolve table entities settings { context with path := first ++ behind } =
        resolve table entities settings { context with path := second ++ behind } := by
  constructor
  · intro base front request hbase hsign hmark hfront
    have hsign : '%' ∉ front.toList := mt (hfront.mem (by decide) (by decide)) hsign
    have hmark : '?' ∉ front.toList := mt (hfront.mem (by decide) (by decide)) hmark
    apply RequestContext.Alike.resolve_eq
    refine ⟨?_, ?_, rfl, rfl, rfl⟩
    · dsimp only
      rw [String.toList_append, String.toList_append, Request.rawQuery?_front hmark,
        Request.rawQuery?_front (by decide)]
    · dsimp only
      rw [String.toList_append, String.toList_append,
        Request.mountedPath_below (mt String.toList_eq_nil_iff.mp hbase) hfront hsign hmark,
        Request.mountedPath_below (by decide) (.refl _) (by decide) (by decide)]
  · intro text first second behind hfirst hsecond
    apply RequestContext.Alike.resolve_eq
    refine ⟨?_, ?_, rfl, rfl, rfl⟩
    · dsimp only
      rw [String.toList_append, String.toList_append,
        Request.rawQuery?_front hfirst.questionMark_not_mem,
        Request.rawQuery?_front hsecond.questionMark_not_mem]
    · dsimp only
      rw [String.toList_append, String.toList_append, Request.mountedPath_spelled hfirst,
        Request.mountedPath_spelled hsecond]

/-! ## A shop below a mount point -/

/-- A store with coffee and where it is drunk. -/
def cafeStore : EntityResolver := .ofRecords [⟨⟨1, 1⟩, "café", .category, 5, true, none⟩]

theorem spells_cafe : Spells "/café".toList "/caf%c3%A9".toList :=
  .plain (by decide) (by decide) <| .plain (by decide) (by decide) <|
    .plain (by decide) (by decide) <| .plain (by decide) (by decide) <|
    @Spells.escaped 'é' [] [] "%c3%A9".toList (by decide) .nil

/-- A request for the café. -/
def cafeRequest : RequestContext := ⟨"/café?page=2", ⟨1, 1⟩, true, false, "/"⟩

/-- The café is found in whatever way its URL is written. -/
theorem resolve_of_written_cafe :
    (resolve .empty cafeStore .initial
        { cafeRequest with path := "/sHOP/caf%c3%A9?page=2", baseUri := "/Shop/" }).outcome =
      .ok (.matched ⟨"category_rule", "category", .ofList [("id_category", "5")], false, none,
        .entity⟩) := by
  have hfound : (resolve .empty cafeStore .initial cafeRequest).outcome =
      .ok (.matched ⟨"category_rule", "category", .ofList [("id_category", "5")], false, none,
        .entity⟩) := by
    decide +kernel
  rw [← hfound]
  have hwritten := resolve_of_written .empty cafeStore .initial cafeRequest
  have hmount := hwritten.1 "/Shop/" "/sHOP/" "caf%c3%A9?page=2" (by decide) (by decide)
    (by decide) (by decide)
  have hspell := hwritten.2 "/café" "/caf%c3%A9" "/café" "?page=2" spells_cafe
    (.refl (by decide) (by decide))
  exact congrArg Traced.outcome (hmount.trans hspell)

end Resolve

end Waymark
