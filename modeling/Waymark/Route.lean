import Waymark.Rule.Segment
import Waymark.Rule.Mention
import Waymark.Pattern.Regex

/-! # Compiled routes

A template that compiles has two derived forms: the segments of its rule, from which URLs are
built, and a pattern, with which request paths are matched. The pattern is anchored at both ends
and starts with a slash. Literal text and affixes are escaped; the fragments of keywords stand
in groups as they are, named after the parameter they bind. A placeholder with an affix is an
optional group, so that affixes never match without the value.
-/

namespace Waymark

open Rule

/-- A template with its matcher and its segments. -/
structure Route where
  template : Template
  regex : Pattern.Regex
  segments : List Segment

namespace Route

/-- The group that captures the value of a keyword. -/
def groupText (k : Keyword) : List Char :=
  match k.param with
  | some param => "(?P<".toList ++ param.toList ++ '>' :: k.regexp.toList ++ [')']
  | none => "(?:".toList ++ k.regexp.toList ++ [')']

/-- The part of the pattern that stands for a placeholder. -/
def placeholderText (p : Placeholder) : List Char :=
  if p.hasAffix then
    "(?:".toList ++ Pattern.Regex.escape p.prepend.toList ++ groupText p.spec ++
      Pattern.Regex.escape p.append.toList ++ ")?".toList
  else groupText p.spec

/-- The part of the pattern that stands for a segment. -/
def segmentText : Segment → List Char
  | .literal text => Pattern.Regex.escape text.toList
  | .placeholder p => placeholderText p

/-- The text of the pattern that segments make. -/
def patternText (segments : List Segment) : List Char :=
  "^/".toList ++ segments.flatMap segmentText ++ ['$']

/-- Compiles a template. -/
def compile (t : Template) : Except CompileError Route := do
  let segments ← Rule.segments t
  match Pattern.Regex.compile (String.ofList (patternText segments)) with
  | .ok regex => pure ⟨t, regex, segments⟩
  | .error cause => throw (.invalidPattern t.routeId cause)

/-- The id of a route. -/
def routeId (r : Route) : String := r.template.routeId

/-- The placeholders of the rule, in order. -/
def placeholders (r : Route) : List Placeholder := Segment.placeholders r.segments

/-- The placeholder of a keyword. -/
def placeholder? (r : Route) (keyword : String) : Option Placeholder :=
  r.placeholders.find? (·.keyword = keyword)

/-- Whether the rule is empty. -/
def isEmptyRule (r : Route) : Bool := r.template.rule == ""

/-- The named groups that take part in matching a normalized path. -/
def captures (r : Route) (path : String) : Option (List (String × String)) :=
  r.regex.captures path

end Route

namespace Template

/-- The keywords that a custom rule for the family has to mention: those that bind a parameter
and, if routing is templated, `rewrite` in place of `id`. -/
def demandedKeywords (family : Template) (templated : Bool) : List String :=
  (family.keywords.entries.filter fun entry =>
    !(templated && entry.1 == "id") &&
      (entry.2.isRequired || (templated && entry.1 == "rewrite"))).map Prod.fst

/-- Checks a custom rule against the vocabulary of its family. -/
def validateRule (family : Template) (rule : String) (templated : Bool) :
    Except ValidationError Unit :=
  match (family.demandedKeywords templated).filter fun name => !mentions rule name with
  | [] => .ok ()
  | missing => .error (.missingKeywords family.routeId missing)

end Template

end Waymark
