import Waymark.Proofs.Pattern.Search
import Waymark.Proofs.Route.Compile
import Waymark.Proofs.Route.Decomposition

/-! # What a compiled route matches

The matcher of a route accepts a path if and only if the path decomposes along the rule, and what
it captures are the values of one such decomposition.
-/

namespace Waymark

open Pattern Pattern.Expr Rule

namespace Route

variable {e : Expr} {s t : Thread} {text rest word : List Char}

/-- Items mean a pattern, under the flags that a pattern starts with. -/
def Means (items : List Ast) (e : Expr) : Prop :=
  ∃ behind, elaborate .initial (.sequence items) = .ok (e, behind)

/-! ## Literals -/

/-- A pattern consumes one text and captures nothing. -/
structure ConsumesText (text : List Char) (e : Expr) : Prop where
  groupNames : e.groupNames = []
  sound : ∀ {s t}, Steps e s t → s.cursor.rest = text ++ t.cursor.rest
  complete : ∀ {s rest}, s.cursor.rest = text ++ rest → ∃ t, Steps e s t ∧ t.cursor.rest = rest

theorem steps_only {c : Char} :
    Steps (one (.only c)) s t ↔
      ∃ rest, s.cursor.rest = c :: rest ∧ t = ⟨⟨s.cursor.index + 1, some c, rest⟩, s.groups⟩ := by
  constructor
  · intro h
    cases h with
    | one step =>
        obtain ⟨char, rest, hrest, hmem, rfl⟩ := Thread.advance?_eq_some_iff.mp step
        obtain rfl := beq_iff_eq.mp hmem
        exact ⟨rest, hrest, rfl⟩
  · rintro ⟨rest, hrest, rfl⟩
    exact .one (Thread.advance?_eq_some_iff.mpr ⟨c, rest, hrest, beq_self_eq_true c, rfl⟩)

/-- Characters mean the text that they make up. -/
theorem Means.literal (h : Means (text.map fun c => .literal c false) e) : ConsumesText text e := by
  obtain ⟨behind, h⟩ := h
  induction text generalizing e with
  | nil =>
      cases h
      refine ⟨rfl, ?_, fun hrest => ⟨_, .empty _, hrest⟩⟩
      intro s t hst
      cases hst
      rfl
  | cons c text ih =>
      obtain ⟨a, between, b, ha, hb, hcat⟩ := elaborate_append h
      cases ha
      obtain ⟨hnames, hsound, hcomplete⟩ := ih hb
      refine ⟨by rw [hcat.groupNames, hnames]; rfl, ?_, ?_⟩
      · intro s u hsu
        obtain ⟨t, hst, htu⟩ := (hcat.steps s u).mp hsu
        obtain ⟨rest, hrest, rfl⟩ := steps_only.mp hst
        rw [hrest, List.cons_append, ← hsound htu]
      · intro s rest hrest
        obtain ⟨u, htu, hu⟩ :=
          @hcomplete ⟨⟨s.cursor.index + 1, some c, text ++ rest⟩, s.groups⟩ rest rfl
        exact ⟨u, (hcat.steps s u).mpr ⟨_, steps_only.mpr ⟨_, hrest, rfl⟩, htu⟩, hu⟩

/-! ## Values -/

/-- A pattern consumes a value of a keyword between two affixes, and captures it if the keyword is
bound. -/
structure ConsumesValue (k : Keyword) (front back : List Char) (e : Expr) : Prop where
  param : ∀ param, k.param = some param → param ∈ e.groupNames
  sound : ∀ {text s t}, Steps e s t → s.cursor.On text → ∃ value ∈ k.language,
    s.cursor.rest = front ++ value ++ back ++ t.cursor.rest ∧
      ∀ param, k.param = some param → t.group? param = some value
  complete : ∀ {s value rest}, value ∈ k.language →
    s.cursor.rest = front ++ value ++ back ++ rest → ∃ t, Steps e s t ∧ t.cursor.rest = rest

/-- By itself a fragment means what it means in the pattern of a rule. -/
theorem language_eq {k : Keyword} {inside : Flags} (hk : k.SelfContained)
    (h : elaborate .initial k.tree = .ok (e, inside)) : k.language = e.language := by
  obtain ⟨regex, hregex⟩ := hk.compiles
  obtain ⟨ast, behind, hast, helaborate⟩ := Regex.compile_eq_ok hregex
  rw [hk.tree.1] at hast
  cases hast
  rw [h] at helaborate
  cases helaborate
  rw [Keyword.language, hregex]

/-- The group of a keyword consumes a value of the keyword. -/
theorem Means.group {k : Keyword} (hk : k.SelfContained)
    (h : Means [.group k.groupKind k.tree] e) : ConsumesValue k [] [] e := by
  obtain ⟨behind, h⟩ := h
  change elaborate .initial (.group k.groupKind k.tree) = .ok (e, behind) at h
  have hsettings : k.groupKind.settings = [] := by
    unfold Keyword.groupKind
    split <;> rfl
  rw [elaborate_group, hsettings] at h
  obtain ⟨⟨inner, inside⟩, hinner, h⟩ := map_eq_ok.mp h
  cases h
  have hlanguage := language_eq hk hinner
  have hplain := (isPlain_elaborate hinner hk.tree.2).2
  unfold Keyword.groupKind
  cases hparam : k.param with
  | none =>
      refine ⟨by simp [hparam], ?_, ?_⟩
      · intro text s t hst _
        obtain ⟨value, hvalue, hrest⟩ := hst.consumes hplain
        exact ⟨value, hlanguage ▸ hvalue, by simpa using hrest, by simp [hparam]⟩
      · intro s value rest hvalue hrest
        exact exists_steps (hlanguage ▸ hvalue) (by simpa using hrest)
  | some param =>
      refine ⟨?_, ?_, ?_⟩
      · intro _ hname
        rw [hparam] at hname
        cases hname
        exact List.mem_cons_self
      · intro text s t hst hs
        cases hst with
        | @capture _ _ _ t hst =>
            obtain ⟨value, hvalue, hrest⟩ := hst.consumes hplain
            refine ⟨value, hlanguage ▸ hvalue, by simpa using hrest, ?_⟩
            intro _ hname
            rw [hparam] at hname
            cases hname
            exact Thread.group?_remember hs (hst.on hs) hrest
      · intro s value rest hvalue hrest
        obtain ⟨t, hst, ht⟩ :=
          @exists_steps _ s value rest (hlanguage ▸ hvalue) (by simpa using hrest)
        exact ⟨_, .capture hst, ht⟩

theorem keeps_literal {item : Ast} (hitem : item ∈ text.map fun c => .literal c false)
    {flags behind : Flags} (h : elaborate flags item = .ok (e, behind)) : behind = flags := by
  obtain ⟨c, -, rfl⟩ := List.mem_map.mp hitem
  exact (isPlain_elaborate h rfl).1

/-- With affixes around it the group of a keyword consumes these as well. -/
theorem Means.affixed {k : Keyword} {front back : List Char} (hk : k.SelfContained)
    (h : Means (front.map (fun c => .literal c false) ++
      .group k.groupKind k.tree :: back.map fun c => .literal c false) e) :
    ConsumesValue k front back e := by
  obtain ⟨behind, h⟩ := h
  obtain ⟨a, e', ha, he', hcat⟩ :=
    elaborate_sequence_append (fun _ hitem _ _ _ h => keeps_literal hitem h) h
  obtain ⟨b, c, hb, hc, hcat'⟩ := @elaborate_sequence_append _ _ _ [.group k.groupKind k.tree] _
    (fun item hitem flags e behind h => (isPlain_elaborate h (by
      rw [List.mem_singleton.mp hitem, Segment.isPlain_group hk])).1) he'
  have hfront := Means.literal ⟨_, ha⟩
  have hvalue := Means.group hk ⟨_, hb⟩
  have hback := Means.literal ⟨_, hc⟩
  refine ⟨?_, ?_, ?_⟩
  · intro param hparam
    rw [hcat.groupNames, hcat'.groupNames]
    exact List.mem_append_right _ (List.mem_append_left _ (hvalue.param param hparam))
  · intro text s u hsu hs
    obtain ⟨t, hst, htu⟩ := (hcat.steps s u).mp hsu
    obtain ⟨v, htv, hvu⟩ := (hcat'.steps t u).mp htu
    obtain ⟨value, hmem, hrest, hgroup⟩ := hvalue.sound htv (hst.on hs)
    refine ⟨value, hmem, ?_, ?_⟩
    · rw [hfront.sound hst, hrest, hback.sound hvu]
      simp
    · intro param hparam
      -- the affix behind the value has no groups
      rw [Thread.group?, hvu.lookup_eq (by rw [hback.groupNames]; exact List.not_mem_nil)]
      exact hgroup param hparam
  · intro s value rest hmem hrest
    obtain ⟨t, hst, ht⟩ := @hfront.complete s (value ++ (back ++ rest)) (by simpa using hrest)
    obtain ⟨v, htv, hv⟩ := @hvalue.complete t value (back ++ rest) hmem (by simpa using ht)
    obtain ⟨u, hvu, hu⟩ := hback.complete hv
    exact ⟨u, (hcat.steps s u).mpr ⟨t, hst, (hcat'.steps t u).mpr ⟨v, htv, hvu⟩⟩, hu⟩

/-! ## Segments -/

/-- A pattern consumes what a segment may contribute; a group of it that had not matched before
captures the value. -/
structure ConsumesSegment (segment : Segment) (e : Expr) : Prop where
  param : ∀ param, segment.param? = some param → param ∈ e.groupNames
  sound : ∀ {text s t}, Steps e s t → s.cursor.On text → ∃ value word, segment.Yields value word ∧
    s.cursor.rest = word ++ t.cursor.rest ∧ ∀ param, segment.param? = some param →
      s.groups.lookup param = none → t.group? param = value
  complete : ∀ {s value word rest}, segment.Yields value word → s.cursor.rest = word ++ rest →
    ∃ t, Steps e s t ∧ t.cursor.rest = rest

theorem steps_optional {greedy : Bool} :
    Steps (repetition e 0 (some 1) greedy) s t ↔ s = t ∨ Steps e s t := by
  have hrepeated : repetition e 0 (some 1) greedy = .repeated e 0 (some 1) greedy := by
    unfold repetition
    split <;> rfl
  rw [hrepeated, steps_repeated_iff]
  constructor
  · rintro ⟨count, -, hmost, hrounds⟩
    have hle := hmost 1 rfl
    cases hrounds with
    | none => exact .inl rfl
    | more first others =>
        cases others with
        | none => exact .inr first
        | more => omega
  · rintro (rfl | hst)
    · exact ⟨0, Nat.le_refl _, fun _ _ => Nat.zero_le _, .none s⟩
    · refine ⟨1, Nat.zero_le _, ?_, .more hst (.none t)⟩
      rintro _ ⟨⟩
      exact Nat.le_refl _

theorem ConsumesText.segment {text : String} (h : ConsumesText text.toList e) :
    ConsumesSegment (.literal text) e := by
  refine ⟨nofun, ?_, ?_⟩
  · intro _ s t hst _
    exact ⟨none, text.toList, .literal text, h.sound hst, nofun⟩
  · intro s value word rest hyields hrest
    cases hyields with
    | literal => exact h.complete hrest

theorem ConsumesValue.segment {p : Placeholder} (haffix : p.hasAffix = false)
    (h : ConsumesValue p.spec [] [] e) : ConsumesSegment (.placeholder p) e := by
  obtain ⟨hprepend, happend⟩ : p.prepend = "" ∧ p.append = "" := by
    simpa [Placeholder.hasAffix] using haffix
  refine ⟨h.param, ?_, ?_⟩
  · intro text s t hst hs
    obtain ⟨value, hvalue, hrest, hgroup⟩ := h.sound hst hs
    refine ⟨some value, _, .present hvalue, ?_, fun param hparam _ => hgroup param hparam⟩
    simpa [hprepend, happend] using hrest
  · intro s value word rest hyields hrest
    cases hyields with
    | present hvalue => exact h.complete hvalue (by simpa [hprepend, happend] using hrest)
    | absent haffix' => rw [haffix] at haffix'; cases haffix'

/-- An optional value with its affixes is present as a whole or not at all. -/
theorem ConsumesValue.optional {p : Placeholder} {greedy : Bool} (haffix : p.hasAffix = true)
    (h : ConsumesValue p.spec p.prepend.toList p.append.toList e) :
    ConsumesSegment (.placeholder p) (repetition e 0 (some 1) greedy) := by
  refine ⟨?_, ?_, ?_⟩
  · intro param hparam
    rw [groupNames_repetition]
    exact h.param param hparam
  · intro text s t hst hs
    rcases steps_optional.mp hst with rfl | hst
    · -- left out as a whole, affixes included
      refine ⟨none, [], .absent haffix, rfl, ?_⟩
      intro param _ hfree
      rw [Thread.group?, hfree]
      rfl
    · obtain ⟨value, hvalue, hrest, hgroup⟩ := h.sound hst hs
      exact ⟨some value, _, .present hvalue, hrest, fun param hparam _ => hgroup param hparam⟩
  · intro s value word rest hyields hrest
    cases hyields with
    | present hvalue =>
        obtain ⟨t, hst, ht⟩ := h.complete hvalue hrest
        exact ⟨t, steps_optional.mpr (.inr hst), ht⟩
    | absent => exact ⟨s, steps_optional.mpr (.inl rfl), hrest⟩

theorem Means.segment {segment : Segment} (hsegment : segment.SelfContained)
    (h : Means segment.items e) : ConsumesSegment segment e := by
  cases segment with
  | literal text => exact (Means.literal h).segment
  | placeholder p =>
      unfold Segment.items at h
      dsimp only at h
      split at h
      next haffix =>
        obtain ⟨behind, h⟩ := h
        obtain ⟨⟨body, _⟩, hbody, h⟩ := bind_eq_ok.mp h
        rw [elaborate_group] at hbody
        obtain ⟨⟨inner, inside⟩, hinner, hbody⟩ := map_eq_ok.mp hbody
        cases hbody
        cases h
        exact (Means.affixed hsegment ⟨inside, hinner⟩).optional haffix
      next haffix => exact (Means.group hsegment h).segment (by simpa using haffix)

/-! ## Rules -/

variable {segments : List Segment}

theorem Means.cons {segment : Segment} (hsegment : segment.SelfContained)
    (h : Means ((segment :: segments).flatMap Segment.items) e) :
    ∃ a b, ConsumesSegment segment a ∧ Means (segments.flatMap Segment.items) b ∧ IsCat e a b := by
  obtain ⟨behind, h⟩ := h
  rw [List.flatMap_cons] at h
  obtain ⟨a, b, ha, hb, hcat⟩ := elaborate_sequence_append (fun _ hitem _ _ _ h =>
    (isPlain_elaborate h (Segment.isPlain_items hsegment hitem)).1) h
  exact ⟨a, b, Means.segment hsegment ⟨_, ha⟩, ⟨_, hb⟩, hcat⟩

/-- The groups that have matched among some names, with the texts they captured. -/
def captured (t : Thread) (names : List String) : List (String × String) :=
  names.filterMap fun name => (t.group? name).map fun found => (name, String.ofList found)

theorem params_sublist (hsegments : ∀ segment ∈ segments, segment.SelfContained)
    (h : Means (segments.flatMap Segment.items) e) :
    (Segment.params segments).Sublist e.groupNames := by
  induction segments generalizing e with
  | nil => exact List.nil_sublist _
  | cons segment segments ih =>
      obtain ⟨a, b, ha, hb, hcat⟩ := h.cons (hsegments segment List.mem_cons_self)
      have hrest := ih (fun s hs => hsegments s (List.mem_cons_of_mem _ hs)) hb
      rw [hcat.groupNames, Segment.params]
      cases hbound : segment.param? with
      | none =>
          rw [List.filterMap_cons_none hbound]
          exact hrest.trans (List.sublist_append_right _ _)
      | some param =>
          rw [List.filterMap_cons_some hbound, ← List.singleton_append]
          exact (List.singleton_sublist.mpr (ha.param param hbound)).append hrest

/-- What the segments of a rule consume decomposes along the rule, and their groups capture the
values that the decomposition binds. -/
theorem Means.segments_sound (hsegments : ∀ segment ∈ segments, segment.SelfContained)
    (h : Means (segments.flatMap Segment.items) e) (hnames : e.groupNames.Nodup)
    (hst : Steps e s t) (hs : s.cursor.On text)
    (hfree : ∀ name ∈ e.groupNames, s.groups.lookup name = none) :
    ∃ word, Decomposes segments word (captured t (Segment.params segments)) ∧
      s.cursor.rest = word ++ t.cursor.rest := by
  induction segments generalizing e s with
  | nil =>
      obtain ⟨behind, h⟩ := h
      cases h
      cases hst
      exact ⟨[], .nil, rfl⟩
  | cons segment segments ih =>
      obtain ⟨a, b, ha, hb, hcat⟩ := h.cons (hsegments segment List.mem_cons_self)
      obtain ⟨m, hsm, hmt⟩ := (hcat.steps s t).mp hst
      rw [hcat.groupNames] at hnames hfree
      obtain ⟨-, hnamesb, hdisjoint⟩ := List.nodup_append.mp hnames
      obtain ⟨value, word, hyields, hword, hgroup⟩ := ha.sound hsm hs
      -- the groups of later segments have other names, so they are still free behind this one
      have hfreem : ∀ name ∈ b.groupNames, m.groups.lookup name = none := by
        intro name hname
        rw [hsm.lookup_eq fun hmem => hdisjoint name hmem name hname rfl]
        exact hfree name (List.mem_append_right _ hname)
      obtain ⟨rest, hdecomposes, hrest⟩ :=
        ih (fun s hs => hsegments s (List.mem_cons_of_mem _ hs)) hb hnamesb hmt (hsm.on hs) hfreem
      refine ⟨word ++ rest, ?_, by rw [hword, hrest, List.append_assoc]⟩
      have hcaptured : captured t (Segment.params (segment :: segments)) =
          segment.bound value ++ captured t (Segment.params segments) := by
        unfold Segment.params Segment.bound
        cases hbound : segment.param? with
        | none => rw [List.filterMap_cons_none hbound, List.nil_append]
        | some param =>
            have hmem := ha.param param hbound
            have hvalue := hgroup param hbound (hfree param (List.mem_append_left _ hmem))
            -- no later segment has a group of this name
            have hkept := hmt.lookup_eq fun hmem' => hdisjoint param hmem param hmem' rfl
            rw [Thread.group?, ← hkept] at hvalue
            rw [List.filterMap_cons_some hbound, captured, List.filterMap_cons, Thread.group?,
              hvalue]
            cases value <;> rfl
      rw [hcaptured]
      exact .cons hyields hdecomposes

theorem Means.segments_complete (hsegments : ∀ segment ∈ segments, segment.SelfContained)
    (h : Means (segments.flatMap Segment.items) e) {found : List (String × String)}
    (hword : Decomposes segments word found) (hrest : s.cursor.rest = word ++ rest) :
    ∃ t, Steps e s t ∧ t.cursor.rest = rest := by
  induction hword generalizing e s with
  | nil =>
      obtain ⟨behind, h⟩ := h
      cases h
      exact ⟨s, .empty s, hrest⟩
  | cons first others ih =>
      obtain ⟨a, b, ha, hb, hcat⟩ := h.cons (hsegments _ List.mem_cons_self)
      rw [List.append_assoc] at hrest
      obtain ⟨m, hsm, hm⟩ := ha.complete first hrest
      obtain ⟨t, hmt, ht⟩ := ih (fun s hs => hsegments s (List.mem_cons_of_mem _ hs)) hb hm
      exact ⟨t, (hcat.steps s t).mpr ⟨m, hsm, hmt⟩, ht⟩

/-! ## Whole paths -/

theorem nodup_of_repeatedName?_eq_none {names : List String}
    (h : Ast.repeatedName? names = none) : names.Nodup := by
  induction names with
  | nil => exact List.nodup_nil
  | cons name names ih =>
      rw [Ast.repeatedName?] at h
      split at h
      next => cases h
      next hnew => exact List.nodup_cons.mpr ⟨by simpa using hnew, ih h⟩

variable {r : Route} {template : Template}

/-- The groups of a matcher have different names. -/
theorem nodup_groupNames (h : compile template = .ok r) : r.regex.expr.groupNames.Nodup := by
  obtain ⟨-, -, hregex⟩ := compile_eq_ok h
  obtain ⟨ast, behind, hast, hexpr⟩ := Regex.compile_eq_ok hregex
  obtain ⟨-, -, hnames⟩ := Read.ofText_reads hast
  rw [groupNames_elaborate hexpr]
  exact nodup_of_repeatedName?_eq_none hnames

/-- The matcher of a route begins at the front of a text, reads a slash and the segments of the
rule, and ends at the end of the text. -/
theorem steps_matcher (h : compile template = .ok r)
    (hsegments : ∀ segment ∈ r.segments, segment.SelfContained) :
    ∃ e, Means (r.segments.flatMap Segment.items) e ∧ e.groupNames = r.regex.expr.groupNames ∧
      e.groupNames.Nodup ∧ ∀ s u, Steps r.regex.expr s u ↔ s.cursor.before = none ∧
        ∃ rest, s.cursor.rest = '/' :: rest ∧
          Steps e ⟨⟨s.cursor.index + 1, some '/', rest⟩, s.groups⟩ u ∧ u.cursor.rest = [] := by
  obtain ⟨-, -, hregex⟩ := compile_eq_ok h
  obtain ⟨ast, behind, hast, hexpr⟩ := Regex.compile_eq_ok hregex
  rw [String.toList_ofList] at hast
  obtain rfl := ofText_patternText hsegments hast
  have hnodup := nodup_groupNames h
  rw [List.append_assoc] at hexpr
  -- the two ends and the slash come off one after another
  obtain ⟨start, _, afterStart, hstart, hexpr, hcat⟩ := elaborate_append hexpr
  obtain ⟨slash, _, afterSlash, hslash, hexpr, hcat'⟩ := elaborate_append hexpr
  cases hstart
  cases hslash
  change elaborate .initial
    (.sequence (r.segments.flatMap Segment.items ++ [.assertion .lineEnd])) = _ at hexpr
  obtain ⟨e, last, he, hlast, hcat''⟩ := elaborate_sequence_append (fun item hitem _ _ _ h => by
    obtain ⟨segment, hmem, hitem⟩ := List.mem_flatMap.mp hitem
    exact (isPlain_elaborate h (Segment.isPlain_items (hsegments segment hmem) hitem)).1) hexpr
  cases hlast
  have hsame : e.groupNames = r.regex.expr.groupNames := by
    rw [hcat.groupNames, hcat'.groupNames, hcat''.groupNames]
    exact (List.append_nil _).symm
  refine ⟨e, ⟨_, he⟩, hsame, hsame ▸ hnodup, ?_⟩
  intro s u
  rw [hcat.steps]
  constructor
  · rintro ⟨s', hstart, hbehind⟩
    cases hstart with
    | anchor hholds =>
        obtain ⟨m, hslash, hbehind⟩ := (hcat'.steps s u).mp hbehind
        obtain ⟨rest, hrest, rfl⟩ := steps_only.mp hslash
        obtain ⟨u', hsegments, hend⟩ := (hcat''.steps _ u).mp hbehind
        cases hend with
        | anchor hend =>
            refine ⟨Option.isNone_iff_eq_none.mp hholds, rest, hrest, hsegments, ?_⟩
            exact List.head?_eq_none_iff.mp (Option.isNone_iff_eq_none.mp hend)
  · rintro ⟨hbefore, rest, hrest, hsegments, hend⟩
    refine ⟨s, .anchor ?_, (hcat'.steps s u).mpr ⟨_, steps_only.mpr ⟨rest, hrest, rfl⟩,
      (hcat''.steps _ u).mpr ⟨u, hsegments, .anchor ?_⟩⟩⟩
    · exact Option.isNone_iff_eq_none.mpr hbefore
    · exact Option.isNone_iff_eq_none.mpr (List.head?_eq_none_iff.mpr hend)

theorem filter_mem_of_sublist {names kept : List String} (h : kept.Sublist names)
    (hnodup : names.Nodup) : names.filter (kept.contains ·) = kept := by
  induction h with
  | slnil => rfl
  | @cons kept names name h ih =>
      obtain ⟨hname, hnodup⟩ := List.nodup_cons.mp hnodup
      rw [List.filter_cons_of_neg, ih hnodup]
      simpa using fun hmem => hname (h.subset hmem)
  | @cons_cons kept names name h ih =>
      obtain ⟨hname, hnodup⟩ := List.nodup_cons.mp hnodup
      rw [List.filter_cons_of_pos (by simp)]
      refine congrArg _ ((List.filter_congr fun other hother => ?_).trans (ih hnodup))
      have hne : other ≠ name := by
        rintro rfl
        exact hname hother
      simp [hne]

/-- A way through the matcher is a way through the segments behind the first slash. -/
theorem decomposes_of_steps (h : compile template = .ok r)
    (hsegments : ∀ segment ∈ r.segments, segment.SelfContained) {cursor : Cursor}
    (hon : cursor.On text) (hst : Steps r.regex.expr ⟨cursor, []⟩ t) :
    ∃ rest, text = '/' :: rest ∧
      Decomposes r.segments rest (captured t (Segment.params r.segments)) := by
  obtain ⟨e, hmeans, hsame, hnodup, hsteps⟩ := steps_matcher h hsegments
  obtain ⟨hbefore, rest, hrest, hst, hend⟩ := (hsteps _ _).mp hst
  dsimp only at hbefore hrest
  have hcursor : cursor = ⟨cursor.index, cursor.before, '/' :: rest⟩ := by rw [← hrest]
  -- the matcher begins where nothing is in front, which is at the front of the text
  have htext : text = '/' :: rest := by
    obtain ⟨front, htext, -, hlast⟩ := hon
    rw [hbefore] at hlast
    rw [htext, hrest, List.getLast?_eq_none_iff.mp hlast.symm, List.nil_append]
  rw [hcursor] at hon
  obtain ⟨word, hdecomposes, hword⟩ := hmeans.segments_sound hsegments hnodup hst hon.next
    fun _ _ => rfl
  rw [hend, List.append_nil] at hword
  dsimp only at hword
  exact ⟨rest, htext, hword ▸ hdecomposes⟩

/-- A path is accepted if and only if it decomposes along the rule behind its first slash. -/
theorem isSome_captures_iff (h : compile template = .ok r)
    (hsegments : ∀ segment ∈ r.segments, segment.SelfContained) (path : String) :
    (r.captures path).isSome ↔
      ∃ rest found, path.toList = '/' :: rest ∧ Decomposes r.segments rest found := by
  rw [captures, Regex.captures, Option.isSome_map]
  constructor
  · intro hfound
    obtain ⟨t, ht⟩ := Option.isSome_iff_exists.mp hfound
    obtain ⟨cursor, hon, hst⟩ := search_sound ht
    obtain ⟨rest, hpath, hdecomposes⟩ := decomposes_of_steps h hsegments hon hst
    exact ⟨rest, _, hpath, hdecomposes⟩
  · rintro ⟨rest, found, hpath, hdecomposes⟩
    obtain ⟨e, hmeans, -, -, hsteps⟩ := steps_matcher h hsegments
    obtain ⟨t, hst, hend⟩ := @Means.segments_complete e
      ⟨⟨1, some '/', rest⟩, []⟩ [] rest r.segments hsegments hmeans found hdecomposes (by simp)
    have hstart := Cursor.start_on path.toList
    refine search_isSome hstart ((hsteps ⟨Cursor.start path.toList, []⟩ t).mpr ?_)
    exact ⟨rfl, rest, hpath, hst, hend⟩

/-- What a route captures are the values of a decomposition of the path. -/
theorem decomposes_of_captures (h : compile template = .ok r)
    (hsegments : ∀ segment ∈ r.segments, segment.SelfContained) {path : String}
    {found : List (String × String)} (hfound : r.captures path = some found) :
    ∃ rest, path.toList = '/' :: rest ∧ Decomposes r.segments rest
      (found.filter fun entry => (Segment.params r.segments).contains entry.1) := by
  obtain ⟨t, ht, rfl⟩ := Option.map_eq_some_iff.mp hfound
  obtain ⟨cursor, hon, hst⟩ := search_sound ht
  obtain ⟨rest, hpath, hdecomposes⟩ := decomposes_of_steps h hsegments hon hst
  obtain ⟨e, hmeans, hsame, hnodup, -⟩ := steps_matcher h hsegments
  refine ⟨rest, hpath, ?_⟩
  -- among the groups in order, the bound parameters stand in the order of the rule
  have hkept := filter_mem_of_sublist (params_sublist hsegments hmeans) hnodup
  rw [hsame] at hkept
  have hfilter : captured t (Segment.params r.segments) =
      (captured t r.regex.expr.groupNames).filter fun entry =>
        (Segment.params r.segments).contains entry.1 := by
    rw [← hkept, captured, captured, List.filterMap_filter, List.filter_filterMap, hkept]
    refine List.filterMap_congr fun name _ => ?_
    cases t.group? name with
    | none => simp
    | some word => simp [Option.filter]
  rw [hfilter] at hdecomposes
  exact hdecomposes

theorem selfContained_of_placeholders (h : ∀ p ∈ r.placeholders, p.spec.SelfContained) :
    ∀ segment ∈ r.segments, segment.SelfContained := by
  intro segment hsegment
  cases segment with
  | literal => trivial
  | placeholder p => exact h p (List.mem_filterMap.mpr ⟨_, hsegment, rfl⟩)

/-- The matcher of a route follows its rule: it accepts the paths that decompose along the rule
behind a slash, and the bound parameters it captures, in order, are those of a decomposition. -/
theorem captures_follow_rule (h : compile template = .ok r)
    (hkeywords : ∀ p ∈ r.placeholders, p.spec.SelfContained) (path : String) :
    ((r.captures path).isSome ↔
      ∃ rest found, path.toList = '/' :: rest ∧ Decomposes r.segments rest found) ∧
    ∀ found, r.captures path = some found →
      ∃ rest, path.toList = '/' :: rest ∧ Decomposes r.segments rest
        (found.filter fun entry => (Segment.params r.segments).contains entry.1) := by
  have hsegments := selfContained_of_placeholders hkeywords
  refine ⟨isSome_captures_iff h hsegments path, ?_⟩
  intro found hfound
  exact decomposes_of_captures h hsegments hfound

/-- A page with a number in its path. -/
def numberedPage : Template :=
  (Template.plain "page" "{id}.html" none).withKeyword "id" ⟨"[0-9]+", some "_"⟩

/-- The placeholder of its number. -/
def pageNumber : Placeholder := ⟨"id", ⟨"[0-9]+", some "_"⟩, "", ""⟩

theorem pieces_numberedPage : Piece.ofRule 0 numberedPage.rule.toList =
    .ok [.token "id".toList 0, .literal ".html".toList] :=
  @Piece.ofRule_token [] "id".toList ".html".toList 0 _ (by decide) (by decide)
    (Piece.ofRule_of_braceless (by decide))

theorem compile_numberedPage : ∃ regex,
    compile numberedPage =
      .ok ⟨numberedPage, regex, [.placeholder pageNumber, .literal ".html"]⟩ := by
  have hsegments : Rule.segments numberedPage =
      .ok [.placeholder pageNumber, .literal ".html"] :=
    segments_of_pieces pieces_numberedPage
  exact ⟨_, compile_of_reads hsegments rfl rfl (by decide)⟩

theorem compile_digits : Regex.compile "[0-9]+" =
    .ok ⟨"[0-9]+", .repeated (.one (.range '0' '9')) 1 none true⟩ := by
  rfl

theorem selfContained_pageNumber : pageNumber.spec.SelfContained := by
  refine ⟨⟨_, rfl, rfl⟩, ⟨_, compile_digits⟩, ?_⟩
  rintro _ ⟨⟩
  decide

theorem seven_mem_language : ['7'] ∈ pageNumber.spec.language := by
  unfold Keyword.language pageNumber
  rw [compile_digits]
  exact Expr.singleton_mem_language rfl nofun

theorem captures_follow_rule_numberedPage :
    ∃ r, compile numberedPage = .ok r ∧ (∀ p ∈ r.placeholders, p.spec.SelfContained) ∧
      (r.captures "/7.html").isSome = true := by
  obtain ⟨regex, hcompile⟩ := compile_numberedPage
  have hkeywords : ∀ p ∈ placeholders
      ⟨numberedPage, regex, [.placeholder pageNumber, .literal ".html"]⟩,
      p.spec.SelfContained := by
    intro p hp
    rw [List.mem_singleton.mp hp]
    exact selfContained_pageNumber
  refine ⟨_, hcompile, hkeywords, (captures_follow_rule hcompile hkeywords _).1.mpr ?_⟩
  exact ⟨_, _, rfl, .cons (.present seven_mem_language) (.cons (.literal ".html") .nil)⟩

end Route

end Waymark
