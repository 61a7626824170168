import Waymark.Proofs.Pattern.Size
import Waymark.Proofs.Route.Substitution

/-! # Rules that are accepted

A rule over keywords that are patterns by themselves, with parameters that can name groups, reads
as the pattern that it spells: nothing goes wrong between the pieces that are put together. What
is left to check is that no parameter is bound twice and that the whole is not too large.
-/

namespace Waymark

open Pattern Rule

namespace Pattern.Read

/-! ## The names of groups -/

/-- Whether a text can be the name of a group. -/
def isGroupName (name : List Char) : Bool :=
  name.head?.any (isGroupNameChar true) && name.tail.all (isGroupNameChar false) &&
    !name.contains '>'

theorem groupNameTail_of_all {name : List Char} (h : name.all (isGroupNameChar false) = true)
    (hclose : '>' ∉ name) (more : List Char) :
    groupNameTail false (name ++ '>' :: more) = .ok (name, more) := by
  induction name with
  | nil => rfl
  | cons c name ih =>
      rw [List.all_cons, Bool.and_eq_true] at h
      rw [List.mem_cons, not_or] at hclose
      rw [List.cons_append, groupNameTail, if_neg (Ne.symm hclose.1), if_pos h.1]
      exact bind_eq_ok.mpr ⟨_, ih h.2 hclose.2, rfl⟩

theorem groupName_of_isGroupName {name : String} (h : isGroupName name.toList = true)
    (more : List Char) : groupName (name.toList ++ '>' :: more) = .ok (name, more) := by
  cases hname : name.toList with
  | nil => simp [isGroupName, hname] at h
  | cons c rest =>
      simp only [isGroupName, hname, List.head?_cons, Option.any_some, List.tail_cons,
        Bool.and_eq_true, Bool.not_eq_true', List.contains_eq_mem, decide_eq_false_iff_not,
        List.mem_cons, not_or] at h
      obtain ⟨⟨hfirst, hothers⟩, hclose, hclose'⟩ := h
      have htail : groupNameTail true (c :: rest ++ '>' :: more) = .ok (c :: rest, more) := by
        rw [List.cons_append, groupNameTail, if_neg (Ne.symm hclose), if_pos hfirst]
        exact bind_eq_ok.mpr ⟨_, groupNameTail_of_all hothers hclose' more, rfl⟩
      refine bind_eq_ok.mpr ⟨_, htail, ?_⟩
      change Except.ok (String.ofList (c :: rest), more) = .ok (name, more)
      rw [← hname, String.ofList_toList]

/-- Lower-case letters and underscores make the name of a group. -/
theorem isGroupName_of_lower {name : List Char} (hne : name ≠ [])
    (h : name.all (fun c => c == '_' || c.isLower) = true) : isGroupName name = true := by
  have hchar : ∀ isFirst, ∀ c ∈ name, isGroupNameChar isFirst c = true := by
    intro isFirst c hc
    have hc' := List.all_eq_true.mp h c hc
    rw [Bool.or_eq_true] at hc'
    rcases hc' with hunderscore | hlower
    · simp [isGroupNameChar, hunderscore]
    · simp [isGroupNameChar, Unicode.isAlphanumeric, Unicode.alphabetic_of_isLower hlower]
  have hclose : '>' ∉ name := by
    intro hmem
    exact absurd (List.all_eq_true.mp h '>' hmem) (by decide)
  cases name with
  | nil => exact absurd rfl hne
  | cons c rest =>
      have hrest : rest.all (isGroupNameChar false) = true :=
        List.all_eq_true.mpr fun d hd => hchar false d (List.mem_cons_of_mem c hd)
      simp [isGroupName, hchar true c List.mem_cons_self, hrest, hclose]

/-! ## Reading what is spelled -/

/-- A text spells some items in front of another: where a sequence can be read from the other, it
can be read from both, and these items stand in front. Each character may take some fuel. -/
def Spells (text : List Char) (items : List Ast) (more : List Char) : Prop :=
  ∀ ⦃fuel rest tail⦄, sequence fuel false more = .ok (rest, tail) →
    sequence (fuel + 4 * text.length) false (text ++ more) =
      .ok ((items.foldr Ast.append rest.1, rest.2), tail)

variable {text text' more : List Char} {items items' : List Ast} {item : Ast}

theorem spells_nil (more : List Char) : Spells [] [] more := fun _ _ _ h => h

theorem Spells.append (h : Spells text items (text' ++ more)) (h' : Spells text' items' more) :
    Spells (text ++ text') (items ++ items') more := by
  intro fuel rest tail hrest
  have hboth := h (h' hrest)
  rw [List.append_assoc, List.foldr_append]
  rw [Nat.add_assoc, ← Nat.mul_add, Nat.add_comm text'.length, ← List.length_append] at hboth
  exact hboth

/-- An item is spelled by what its first character reads, if no operator follows. -/
theorem spells_item {c : Char} (hbar : c ≠ '|') (hclose : c ≠ ')') (hclear : Clear more)
    (hatom : ∀ fuel, atom (fuel + 4 * text.length + 1) false c (text ++ more) =
      .ok ((item, false), more)) : Spells (c :: text) [item] more := by
  intro fuel rest tail hrest
  have hfuel : fuel + 4 * (c :: text).length = fuel + 2 + 4 * text.length + 1 + 1 := by
    rw [List.length_cons]
    omega
  have hothers := (reads_mono fuel (show fuel ≤ fuel + 2 + 4 * text.length + 1 by omega)).2.1 hrest
  rw [hfuel, List.cons_append, sequence_cons hbar hclose]
  refine bind_eq_ok.mpr ⟨_, hatom (fuel + 2), bind_eq_ok.mpr ⟨_, repetitions_of_clear hclear,
    bind_eq_ok.mpr ⟨_, hothers, rfl⟩⟩⟩

/-- A group with a question mark behind it spells a group that may be left out. -/
theorem spells_optional {kind : GroupKind} {body : Ast} (hclear : Clear more)
    (hatom : ∀ fuel, atom (fuel + 4 * text.length + 1) false '(' (text ++ '?' :: more) =
      .ok ((.group kind body, false), '?' :: more)) :
    Spells ('(' :: text ++ ['?']) [.repeated (.group kind body) 0 (some 1) true] more := by
  intro fuel rest tail hrest
  have hfuel : fuel + 4 * ('(' :: text ++ ['?']).length = fuel + 6 + 4 * text.length + 1 + 1 := by
    simp
    omega
  have hothers := (reads_mono fuel (show fuel ≤ fuel + 6 + 4 * text.length + 1 by omega)).2.1 hrest
  rw [hfuel, List.append_assoc, List.cons_append, sequence_cons (by decide) (by decide)]
  exact bind_eq_ok.mpr ⟨_, hatom (fuel + 6), bind_eq_ok.mpr ⟨_, repetitions_optional hclear,
    bind_eq_ok.mpr ⟨_, hothers, rfl⟩⟩⟩

theorem spells_char {c : Char} (hbar : c ≠ '|') (hclose : c ≠ ')') (hclear : Clear more)
    (hatom : ∀ fuel, atom (fuel + 1) false c more = .ok ((item, false), more)) :
    Spells [c] [item] more :=
  spells_item hbar hclose hclear hatom

theorem spells_escape (hclear : Clear more) (text : List Char) :
    Spells (Regex.escape text) (text.map fun c => .literal c false) more := by
  induction text with
  | nil => exact spells_nil more
  | cons c text ih =>
      have hclear' := clear_escape_append hclear text
      rw [escape_cons]
      change Spells _ ([.literal c false] ++ text.map fun c => .literal c false) more
      refine Spells.append ?_ ih
      split
      next hmeta =>
        refine spells_item (by decide) (by decide) hclear' ?_
        intro fuel
        exact bind_eq_ok.mpr ⟨_, escape_of_isMeta hmeta _, rfl⟩
      next hmeta =>
        have hmeta' : Regex.isMeta c = false := by simpa using hmeta
        refine spells_char ?_ ?_ hclear' fun fuel => atom_of_not_isMeta hmeta'
        · rintro rfl
          exact hmeta (by decide)
        · rintro rfl
          exact hmeta (by decide)

/-! ## Groups -/

theorem atom_of_opening {fuel : Nat} {kind : GroupKind} {body : Ast} {inside : List Char}
    (hopening : opening false text = .ok (.group kind, inside))
    (hmode : insideMode false kind = false)
    (hinside : alternatives fuel false inside = .ok ((body, false), ')' :: more)) :
    atom (fuel + 1) false '(' text = .ok ((.group kind body, false), more) := by
  rw [atom_parenthesis]
  refine bind_eq_ok.mpr ⟨_, hopening, ?_⟩
  dsimp only
  rw [hmode]
  exact bind_eq_ok.mpr ⟨_, hinside, rfl⟩

/-- What is a plain pattern by itself is one in parentheses. -/
theorem alternatives_of_fragment {fragment : List Char} {ast : Ast} {fuel : Nat}
    (hfragment : Ast.ofText fragment = .ok ast) (hplain : ast.isPlain = true)
    (hfuel : 4 * fragment.length + 4 ≤ fuel) (more : List Char) :
    alternatives fuel false (fragment ++ ')' :: more) = .ok ((ast, false), ')' :: more) := by
  obtain ⟨verbose, hread, -⟩ := ofText_reads hfragment
  exact (@(readsAlike _ hfuel).1 _ _ more _ _ hread hplain).2

/-- What is spelled up to a closing parenthesis or the end are the only alternative. -/
theorem alternatives_of_spells {fuel : Nat} (hmore : more = [] ∨ ∃ rest, more = ')' :: rest)
    (h : Spells text items more) (hfuel : 4 * text.length + 2 ≤ fuel) :
    alternatives fuel false (text ++ more) = .ok ((.sequence items, false), more) := by
  have hend : sequence 1 false more = .ok ((.empty, false), more) := by
    rcases hmore with rfl | ⟨rest, rfl⟩ <;> rfl
  obtain ⟨fuel, rfl⟩ := Nat.exists_eq_add_of_le' (show 1 ≤ fuel by omega)
  have hread := (reads_mono _ (show 1 + 4 * text.length ≤ fuel by omega)).2.1 (h hend)
  refine bind_eq_ok.mpr ⟨_, hread, ?_⟩
  rcases hmore with rfl | ⟨rest, rfl⟩ <;> rfl

end Pattern.Read

/-! ## Keywords and segments -/

namespace Keyword

/-- A keyword can stand in any rule: its fragment is standalone and leaves room for the groups
around it, and the bound parameter can be the name of a group. -/
structure Usable (k : Keyword) : Prop where
  standalone : k.Standalone
  depth : k.tree.depth .other + 5 ≤ Ast.maxDepth
  param : ∀ param, k.param = some param → Read.isGroupName param.toList = true

/-- The size of the fragment of a keyword. -/
def size (k : Keyword) : Nat :=
  match Regex.compile k.regexp with
  | .ok regex => regex.expr.size
  | .error _ => 0

variable {k : Keyword}

theorem Usable.selfContained (h : k.Usable) : k.SelfContained := by
  apply h.standalone.selfContained
  intro param hparam
  have hname := h.param param hparam
  simp only [Read.isGroupName, Bool.and_eq_true, Bool.not_eq_true', List.contains_eq_mem,
    decide_eq_false_iff_not] at hname
  exact hname.2

theorem Usable.costs (h : k.Usable) : Expr.Costs .initial k.tree k.size := by
  obtain ⟨regex, hregex⟩ := h.standalone.compiles
  obtain ⟨ast, behind, hast, hexpr⟩ := Regex.compile_eq_ok hregex
  obtain ⟨htree, hplain⟩ := h.selfContained.tree
  rw [htree] at hast
  cases hast
  obtain ⟨rfl, -⟩ := Expr.isPlain_elaborate hexpr hplain
  refine ⟨regex.expr, hexpr, ?_⟩
  rw [size, hregex]

end Keyword

namespace Rule.Segment

/-- A placeholder's keyword can stand in any rule. -/
def Usable : Segment → Prop
  | literal _ => True
  | placeholder p => p.spec.Usable

theorem Usable.selfContained {segment : Segment} (h : segment.Usable) : segment.SelfContained := by
  cases segment with
  | literal => exact trivial
  | placeholder p => exact Keyword.Usable.selfContained h

end Rule.Segment

namespace Route

open Pattern.Read

variable {more : List Char}

theorem spells_groupText {k : Keyword} (hk : k.Usable) (hclear : Clear more) :
    Spells (groupText k) [.group k.groupKind k.tree] more := by
  obtain ⟨htree, hplain⟩ := hk.selfContained.tree
  cases hparam : k.param with
  | none =>
      rw [groupText_cosmetic hparam, Keyword.groupKind, hparam]
      refine spells_item (by decide) (by decide) hclear ?_
      intro fuel
      refine atom_of_opening ?_ rfl (alternatives_of_fragment htree hplain ?_ more)
      · simp [opening, flags, bind, Except.bind, pure, Except.pure]
      · simp
        omega
  | some param =>
      rw [groupText_bound hparam, Keyword.groupKind, hparam]
      refine spells_item (by decide) (by decide) hclear ?_
      intro fuel
      refine atom_of_opening ?_ rfl (alternatives_of_fragment htree hplain ?_ more)
      · have hname := groupName_of_isGroupName (hk.param param hparam)
          (k.regexp.toList ++ ')' :: more)
        simp [opening, hname, bind, Except.bind, pure, Except.pure]
      · simp
        omega

theorem spells_placeholderText {p : Placeholder} (hp : p.spec.Usable) (hclear : Clear more) :
    Spells (placeholderText p) (Segment.placeholder p).items more := by
  unfold Segment.items
  dsimp only
  split
  next haffix =>
    -- inside out, as it is read
    have hclose : Clear (')' :: '?' :: more) := by
      rintro _ ⟨⟩
      decide
    have happend := spells_escape hclose p.append.toList
    have hgroup := spells_groupText hp (clear_escape_append hclose p.append.toList)
    have hprepend := @spells_escape _ (clear_groupText_append p.spec
      (Regex.escape p.append.toList ++ ')' :: '?' :: more)) p.prepend.toList
    rw [← List.append_assoc] at hprepend
    have hinside := hprepend.append (hgroup.append happend)
    rw [placeholderText_affix haffix]
    refine spells_optional hclear ?_
    intro fuel
    refine atom_of_opening ?_ rfl (alternatives_of_spells (.inr ⟨_, rfl⟩) hinside ?_)
    · simp [opening, flags, bind, Except.bind, pure, Except.pure]
    · simp
      omega
  next haffix =>
    rw [placeholderText_bare (by simpa using haffix)]
    exact spells_groupText hp hclear

theorem spells_segments {segments : List Segment} (hclear : Clear more)
    (hsegments : ∀ segment ∈ segments, segment.Usable) :
    Spells (segments.flatMap segmentText) (segments.flatMap Segment.items) more ∧
      Clear (segments.flatMap segmentText ++ more) := by
  induction segments with
  | nil => exact ⟨spells_nil more, hclear⟩
  | cons segment segments ih =>
      obtain ⟨hspells, hclear'⟩ := ih fun s hs => hsegments s (List.mem_cons_of_mem _ hs)
      have hfirst : Spells (segmentText segment) segment.items
          (segments.flatMap segmentText ++ more) := by
        cases segment with
        | literal text => exact spells_escape hclear' text.toList
        | placeholder p =>
            exact spells_placeholderText (hsegments _ List.mem_cons_self) hclear'
      rw [List.flatMap_cons, List.flatMap_cons]
      refine ⟨hfirst.append hspells, ?_⟩
      rw [List.append_assoc]
      exact clear_segmentText_append hclear' segment

/-! ## Whole rules -/

/-- The items that a rule reads as: its segments between the two ends of the text. -/
def ruleItems (segments : List Segment) : List Ast :=
  [.assertion .lineStart, .literal '/' false] ++ segments.flatMap Segment.items ++
    [.assertion .lineEnd]

variable {segments : List Segment}

theorem spells_patternText (hsegments : ∀ segment ∈ segments, segment.Usable) :
    Spells (patternText segments) (ruleItems segments) [] := by
  have hend : Spells ['$'] [.assertion .lineEnd] [] :=
    spells_char (by decide) (by decide) nofun fun _ => rfl
  obtain ⟨hmiddle, hclear⟩ := @spells_segments ['$'] _ (by rintro _ ⟨⟩; decide) hsegments
  have hslash : Spells ['/'] [.literal '/' false] (segments.flatMap segmentText ++ ['$']) :=
    spells_char (by decide) (by decide) hclear fun _ => rfl
  have hstart : Spells ['^'] [.assertion .lineStart]
      (['/'] ++ (segments.flatMap segmentText ++ ['$'])) :=
    spells_char (by decide) (by decide) (by rintro _ ⟨⟩; decide) fun _ => rfl
  exact ((hstart.append hslash).append hmiddle).append hend

theorem depth_items {segment : Segment} (hsegment : segment.Usable) :
    ∀ item ∈ segment.items, item.depth .other + 1 ≤ Ast.maxDepth := by
  have hliteral : ∀ text : List Char, ∀ item ∈ text.map fun c => Ast.literal c false,
      item.depth .other = 0 := by
    intro text item hitem
    obtain ⟨c, -, rfl⟩ := List.mem_map.mp hitem
    rfl
  intro item hitem
  cases segment with
  | literal text =>
      rw [hliteral _ item hitem]
      decide
  | placeholder p =>
      have hdepth := Keyword.Usable.depth hsegment
      unfold Segment.items at hitem
      dsimp only at hitem
      split at hitem
      next =>
        rw [List.mem_singleton.mp hitem]
        have hinside : (Ast.sequence (p.prepend.toList.map (fun c => Ast.literal c false) ++
            Ast.group p.spec.groupKind p.spec.tree ::
              p.append.toList.map fun c => Ast.literal c false)).depth .other ≤
            1 + p.spec.tree.depth .other + 1 := by
          apply Ast.depth_sequence_le
          intro other hother
          rw [List.mem_append, List.mem_cons] at hother
          rcases hother with hfront | rfl | hback
          · rw [hliteral _ other hfront]
            omega
          · rw [Ast.depth]
          · rw [hliteral _ other hback]
            omega
        simp only [Ast.depth]
        omega
      next =>
        rw [List.mem_singleton.mp hitem, Ast.depth]
        omega

theorem depth_ruleItems (hsegments : ∀ segment ∈ segments, segment.Usable) :
    (Ast.sequence (ruleItems segments)).depth .other ≤ Ast.maxDepth := by
  have hitems : ∀ item ∈ ruleItems segments, item.depth .other ≤ Ast.maxDepth - 1 := by
    intro item hitem
    rw [ruleItems, List.mem_append, List.mem_append, List.mem_singleton] at hitem
    rcases hitem with (hstart | hmiddle) | rfl
    · simp only [List.mem_cons, List.not_mem_nil, or_false] at hstart
      rcases hstart with rfl | rfl <;> decide
    · obtain ⟨segment, hsegment, hitem⟩ := List.mem_flatMap.mp hmiddle
      have hdepth := depth_items (hsegments segment hsegment) item hitem
      omega
    · decide
  exact Ast.depth_sequence_le hitems

theorem repeatedName?_of_nodup {names : List String} (h : names.Nodup) :
    Ast.repeatedName? names = none := by
  induction names with
  | nil => rfl
  | cons name names ih =>
      rw [List.nodup_cons] at h
      rw [Ast.repeatedName?, if_neg (by simpa using h.1)]
      exact ih h.2

/-- A rule over usable keywords that binds no parameter twice reads as a pattern. -/
theorem ofText_of_usable (hsegments : ∀ segment ∈ segments, segment.Usable)
    (hparams : (Segment.params segments).Nodup) :
    Ast.ofText (patternText segments) = .ok (.sequence (ruleItems segments)) := by
  have hread : alternatives (4 * (patternText segments).length + 4) false (patternText segments) =
      .ok ((.sequence (ruleItems segments), false), []) := by
    have halone := alternatives_of_spells (.inl rfl) (spells_patternText hsegments)
      (show 4 * (patternText segments).length + 2 ≤ 4 * (patternText segments).length + 4 by omega)
    rwa [List.append_nil] at halone
  have hgroups : (Ast.sequence (ruleItems segments)).groupNames = Segment.params segments := by
    rw [Ast.groupNames_sequence, ruleItems, List.flatMap_append, List.flatMap_append,
      Segment.flatMap_groupNames]
    · exact List.append_nil _
    · intro p hp
      obtain ⟨segment, hsegment, hp⟩ := List.mem_filterMap.mp hp
      cases segment with
      | literal => cases hp
      | placeholder =>
          cases hp
          have husable : Keyword.Usable _ := hsegments _ hsegment
          exact husable.standalone.groupNames_tree
  refine bind_eq_ok.mpr ⟨_, hread, ?_⟩
  dsimp only
  rw [if_neg (Nat.not_lt.mpr (depth_ruleItems hsegments)), hgroups, repeatedName?_of_nodup hparams]
  rfl

/-! ## Sizes -/

/-- The size of an escaped text. -/
def literalSize (text : String) : Nat := 32 * Text.byteLength text.toList

/-- How much a segment adds to the size of a pattern at most. -/
def segmentSize : Segment → Nat
  | .literal text => literalSize text
  | .placeholder p => 232 + literalSize p.prepend + p.spec.size + literalSize p.append

open Expr

theorem costs_literals {others : List Ast} {n : Nat} (text : String)
    (hothers : Costs .initial (.sequence others) n) :
    Costs .initial (.sequence ((text.toList.map fun c => Ast.literal c false) ++ others))
      (literalSize text + n) := by
  unfold literalSize
  induction text.toList with
  | nil => simpa [Text.byteLength] using hothers
  | cons c rest ih =>
      have hchar : Costs .initial (.literal c false) (32 * c.utf8Size) :=
        ⟨.one (.only c), rfl, Nat.le_refl _⟩
      refine (hchar.cons ih).mono ?_
      simp only [Text.byteLength]
      omega

theorem costs_segment {segment : Segment} {others : List Ast} {n : Nat} (hsegment : segment.Usable)
    (hothers : Costs .initial (.sequence others) n) :
    Costs .initial (.sequence (segment.items ++ others)) (segmentSize segment + n) := by
  cases segment with
  | literal text => exact costs_literals text hothers
  | placeholder p =>
      have hgroup : Costs .initial (.group p.spec.groupKind p.spec.tree) (64 + p.spec.size) := by
        apply costs_group
        · unfold Keyword.groupKind
          split <;> rfl
        · exact Keyword.Usable.costs hsegment
      unfold Segment.items
      dsimp only
      split
      next haffix =>
        have hend : Costs .initial (.sequence []) 32 := ⟨.empty, rfl, Nat.le_refl _⟩
        have happend := costs_literals p.append hend
        rw [List.append_nil] at happend
        have hinside := costs_literals p.prepend (hgroup.cons happend)
        refine ((costs_optional (costs_group rfl hinside)).cons hothers).mono ?_
        simp only [segmentSize]
        omega
      next haffix =>
        refine (hgroup.cons hothers).mono ?_
        simp only [segmentSize]
        omega

theorem costs_segments {others : List Ast} {n : Nat}
    (hsegments : ∀ segment ∈ segments, segment.Usable)
    (hothers : Costs .initial (.sequence others) n) :
    Costs .initial (.sequence (segments.flatMap Segment.items ++ others))
      ((segments.map segmentSize).sum + n) := by
  induction segments with
  | nil => simpa using hothers
  | cons segment segments ih =>
      have hrest := ih fun s hs => hsegments s (List.mem_cons_of_mem _ hs)
      have hwhole := costs_segment (hsegments segment List.mem_cons_self) hrest
      rw [List.flatMap_cons, List.append_assoc, List.map_cons, List.sum_cons, Nat.add_assoc]
      exact hwhole

theorem costs_ruleItems (hsegments : ∀ segment ∈ segments, segment.Usable) :
    Costs .initial (.sequence (ruleItems segments)) (128 + (segments.map segmentSize).sum) := by
  have hend : Costs .initial (.sequence [.assertion .lineEnd]) 32 :=
    ⟨.anchor .textEnd, rfl, Nat.le_refl _⟩
  have hstart : Costs .initial (.assertion .lineStart) 32 :=
    ⟨.anchor .textStart, rfl, Nat.le_refl _⟩
  have hslash : Costs .initial (.literal '/' false) 32 := ⟨.one (.only '/'), rfl, by decide⟩
  refine (hstart.cons (hslash.cons (costs_segments hsegments hend))).mono ?_
  omega

/-- A template compiles if its rule reads as segments, its keywords are usable, no parameter is
bound twice and the whole is not too large. -/
theorem compile_of_usable {t : Template} (h : Rule.segments t = .ok segments)
    (husable : ∀ p ∈ Segment.placeholders segments, p.spec.Usable)
    (hparams : (Segment.params segments).Nodup)
    (hsize : 128 + (segments.map segmentSize).sum ≤ Expr.maxSize) :
    ∃ regex, compile t = .ok ⟨t, regex, segments⟩ := by
  have hsegments : ∀ segment ∈ segments, segment.Usable := by
    intro segment hsegment
    cases segment with
    | literal => exact trivial
    | placeholder p => exact husable p (List.mem_filterMap.mpr ⟨_, hsegment, rfl⟩)
  obtain ⟨expr, hexpr, hle⟩ := costs_ruleItems hsegments
  exact ⟨_, compile_of_reads h (ofText_of_usable hsegments hparams) hexpr
    (Nat.le_trans hle hsize)⟩

end Route

end Waymark
