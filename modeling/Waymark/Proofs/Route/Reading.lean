import Waymark.Route
import Waymark.Proofs.Pattern.Meaning

/-! # How the pattern of a rule is read

The text that a rule is turned into reads back as what the rule says: each character of a literal
as itself, each fragment as the tree that it is by itself, in a group that nothing leaves.
-/

namespace Waymark

open Pattern Pattern.Read

namespace Pattern.Read

/-- Whether a character repeats the item in front of it. -/
def isOperator (c : Char) : Bool := c == '?' || c == '*' || c == '+' || c == '\x7b'

/-- No repetition operator comes next. -/
def Clear (text : List Char) : Prop := ∀ c ∈ text.head?, isOperator c = false

/-- A text reads as some items in front of another: a sequence read from both is made of these
items and of what is read from the other alone. -/
def ReadsAs (text : List Char) (items : List Ast) (more : List Char) : Prop :=
  ∀ ⦃fuel read tail⦄, sequence fuel false (text ++ more) = .ok (read, tail) →
    ∃ fuel' rest, sequence fuel' false more = .ok ((rest, read.2), tail) ∧
      read.1 = items.foldr Ast.append rest

variable {text text' more : List Char} {items items' : List Ast} {item : Ast}

theorem repetitions_of_clear {fuel : Nat} (h : Clear text) :
    repetitions false fuel item text = .ok (item, text) := by
  cases fuel with
  | zero => rfl
  | succ fuel =>
      have hnone : repetition? false text = .ok none := by
        unfold repetition?
        simp only [skipBlank_false]
        split
        case h_5 => rfl
        all_goals exact absurd (h _ rfl) (by decide)
      rw [repetitions, hnone]
      rfl

theorem readsAs_nil (more : List Char) : ReadsAs [] [] more := by
  intro fuel read tail h
  exact ⟨fuel, read.1, h, rfl⟩

theorem ReadsAs.append (h : ReadsAs text items (text' ++ more)) (h' : ReadsAs text' items' more) :
    ReadsAs (text ++ text') (items ++ items') more := by
  intro fuel read tail hread
  rw [List.append_assoc] at hread
  obtain ⟨fuel', rest, hrest, hitems⟩ := h hread
  obtain ⟨fuel'', rest', hrest', hitems'⟩ := h' hrest
  refine ⟨fuel'', rest', hrest', ?_⟩
  rw [hitems, List.foldr_append, ← hitems']

/-- An item reads as itself if no operator follows. -/
theorem readsAs_item {c : Char} (hbar : c ≠ '|') (hclose : c ≠ ')') (hclear : Clear more)
    (hatom : ∀ {fuel read}, atom fuel false c (text ++ more) = .ok read →
      read = ((item, false), more)) : ReadsAs (c :: text) [item] more := by
  intro fuel read tail h
  cases fuel with
  | zero => cases h
  | succ fuel =>
      rw [List.cons_append, sequence_cons hbar hclose] at h
      obtain ⟨read', hread', h⟩ := bind_eq_ok.mp h
      obtain rfl := hatom hread'
      obtain ⟨counted, hcounted, h⟩ := bind_eq_ok.mp h
      rw [repetitions_of_clear hclear] at hcounted
      cases hcounted
      obtain ⟨others, hothers, h⟩ := bind_eq_ok.mp h
      cases h
      exact ⟨fuel, others.1.1, hothers, rfl⟩

theorem repetitions_optional {fuel : Nat} {kind : GroupKind} {body : Ast} (h : Clear text) :
    repetitions false (fuel + 1) (.group kind body) ('?' :: text) =
      .ok (.repeated (.group kind body) 0 (some 1) true, text) := by
  have hgreed : greed text = (true, text) := by
    unfold greed
    split
    next => exact absurd (h _ rfl) (by decide)
    next => rfl
  have hfound : repetition? false ('?' :: text) = .ok (some ((0, some 1), true, text)) := by
    simp [repetition?, hgreed]
  rw [repetitions, hfound]
  exact repetitions_of_clear h

theorem readsAs_char {c : Char} (hbar : c ≠ '|') (hclose : c ≠ ')') (hclear : Clear more)
    (hatom : ∀ fuel text, atom (fuel + 1) false c text = .ok ((item, false), text)) :
    ReadsAs [c] [item] more := by
  refine readsAs_item hbar hclose hclear ?_
  intro fuel read h
  cases fuel with
  | zero => cases h
  | succ fuel =>
      rw [hatom] at h
      cases h
      rfl

/-- A group with a question mark behind it reads as a group that may be left out. -/
theorem readsAs_optional {c : Char} {kind : GroupKind} {body : Ast} (hbar : c ≠ '|')
    (hclose : c ≠ ')') (hclear : Clear more)
    (hatom : ∀ {fuel read}, atom fuel false c (text ++ '?' :: more) = .ok read →
      read = ((.group kind body, false), '?' :: more)) :
    ReadsAs (c :: text ++ ['?']) [.repeated (.group kind body) 0 (some 1) true] more := by
  intro fuel read tail h
  cases fuel with
  | zero => cases h
  | succ fuel =>
      rw [List.append_assoc, List.cons_append, sequence_cons hbar hclose] at h
      obtain ⟨read', hread', h⟩ := bind_eq_ok.mp h
      obtain rfl := hatom hread'
      obtain ⟨counted, hcounted, h⟩ := bind_eq_ok.mp h
      dsimp only at hcounted
      rw [repetitions_optional hclear] at hcounted
      cases hcounted
      obtain ⟨others, hothers, h⟩ := bind_eq_ok.mp h
      cases h
      exact ⟨fuel, others.1.1, hothers, rfl⟩

/-! ## Escaped text -/

theorem isMeta_iff {c : Char} : Regex.isMeta c = true ↔ c ∈ ['\\', '.', '+', '*', '?', '(', ')',
    '|', '[', ']', '\x7b', '\x7d', '^', '$', '#', '&', '-', '~'] := by
  rw [Regex.isMeta, List.contains_iff_mem]

/-- An escaped character stands for itself. -/
theorem escape_of_isMeta {c : Char} (h : Regex.isMeta c = true) (text : List Char) :
    escape false (c :: text) = .ok (.literal c false, text) := by
  have hmem := isMeta_iff.mp h
  simp only [List.mem_cons, List.not_mem_nil, or_false] at hmem
  rcases hmem with rfl | rfl | rfl | rfl | rfl | rfl | rfl | rfl | rfl | rfl | rfl | rfl | rfl |
    rfl | rfl | rfl | rfl | rfl
  all_goals rfl

theorem atom_of_not_isMeta {fuel : Nat} {c : Char} (h : Regex.isMeta c = false) :
    atom (fuel + 1) false c text = .ok ((.literal c false, false), text) := by
  have hmem : ∀ d, Regex.isMeta d = true → c ≠ d := by
    rintro d hd rfl
    rw [hd] at h
    cases h
  rw [atom]
  all_goals exact hmem _ (by decide)

theorem escape_cons (c : Char) (text : List Char) :
    Regex.escape (c :: text) =
      (if Regex.isMeta c then ['\\', c] else [c]) ++ Regex.escape text := rfl

/-- Escaped text repeats nothing. -/
theorem clear_escape_append (hclear : Clear more) (text : List Char) :
    Clear (Regex.escape text ++ more) := by
  cases text with
  | nil => exact hclear
  | cons c text =>
      rw [escape_cons]
      split
      next =>
        rintro _ ⟨⟩
        decide
      next hmeta =>
        rintro _ ⟨⟩
        rw [isOperator, Bool.eq_false_iff]
        intro hoperator
        simp only [Bool.or_eq_true, beq_iff_eq] at hoperator
        rcases hoperator with ((rfl | rfl) | rfl) | rfl
        all_goals exact hmeta (by decide)

/-- Escaped text reads as its characters. -/
theorem readsAs_escape (hclear : Clear more) (text : List Char) :
    ReadsAs (Regex.escape text) (text.map fun c => .literal c false) more := by
  induction text with
  | nil => exact readsAs_nil more
  | cons c text ih =>
      change ReadsAs ((if Regex.isMeta c then ['\\', c] else [c]) ++ Regex.escape text)
        ([.literal c false] ++ text.map fun c => .literal c false) more
      refine ReadsAs.append ?_ ih
      have hclear' := clear_escape_append hclear text
      split
      next hmeta =>
        refine readsAs_item (by decide) (by decide) hclear' ?_
        intro fuel read h
        cases fuel with
        | zero => cases h
        | succ fuel =>
            obtain ⟨⟨item, rest⟩, hescape, h⟩ := bind_eq_ok.mp h
            rw [List.singleton_append, escape_of_isMeta hmeta] at hescape
            cases hescape
            cases h
            rfl
      next hmeta =>
        have hmeta' : Regex.isMeta c = false := by simpa using hmeta
        refine readsAs_item ?_ ?_ hclear' ?_
        · rintro rfl
          exact hmeta (by decide)
        · rintro rfl
          exact hmeta (by decide)
        · intro fuel read h
          cases fuel with
          | zero => cases h
          | succ fuel =>
              rw [atom_of_not_isMeta hmeta'] at h
              cases h
              rfl

/-! ## Groups -/

theorem ofText_reads {text : List Char} {ast : Ast} (h : Ast.ofText text = .ok ast) :
    ∃ verbose, alternatives (4 * text.length + 4) false text = .ok ((ast, verbose), []) ∧
      Ast.repeatedName? ast.groupNames = none := by
  obtain ⟨⟨⟨ast', verbose⟩, rest⟩, hread, h⟩ := bind_eq_ok.mp h
  dsimp only at h
  split at h
  next heq =>
    cases heq
    split at h
    next => cases h
    next =>
      split at h
      next => cases h
      next hnames =>
        cases h
        exact ⟨verbose, hread, hnames⟩
  next => cases h

/-- A fragment that reads as a plain tree by itself reads as that tree in parentheses. -/
theorem alternatives_of_ofText {fragment : List Char} {ast : Ast} {fuel : Nat}
    {read : (Ast × Bool) × List Char} (hfragment : Ast.ofText fragment = .ok ast)
    (hplain : ast.isPlain = true)
    (h : alternatives fuel false (fragment ++ ')' :: more) = .ok read) :
    read = ((ast, false), ')' :: more) := by
  obtain ⟨verbose, hread, -⟩ := ofText_reads hfragment
  -- both readings succeed with the larger fuel, so they are the same
  have hfuel := Nat.le_max_left (4 * fragment.length + 4) fuel
  obtain ⟨-, hinside⟩ := @(readsAlike _ hfuel).1 _ _ more _ _ hread hplain
  have hagain := (reads_mono fuel (Nat.le_max_right (4 * fragment.length + 4) fuel)).1 h
  rw [hinside] at hagain
  cases hagain
  rfl

theorem groupNameTail_eq {isFirst : Bool} {param name : List Char} {tail : List Char}
    (hparam : '>' ∉ param) (h : groupNameTail isFirst (param ++ '>' :: more) = .ok (name, tail)) :
    name = param ∧ tail = more := by
  induction param generalizing isFirst name with
  | nil =>
      rw [List.nil_append, groupNameTail, if_pos rfl] at h
      cases h
      exact ⟨rfl, rfl⟩
  | cons c param ih =>
      simp only [List.mem_cons, not_or] at hparam
      rw [List.cons_append, groupNameTail, if_neg (Ne.symm hparam.1)] at h
      split at h
      next =>
        obtain ⟨⟨name', tail'⟩, hread, h⟩ := bind_eq_ok.mp h
        cases h
        obtain ⟨rfl, rfl⟩ := ih hparam.2 hread
        exact ⟨rfl, rfl⟩
      next => cases h

theorem groupName_eq {param name : String} {tail : List Char} (hparam : '>' ∉ param.toList)
    (h : groupName (param.toList ++ '>' :: more) = .ok (name, tail)) :
    name = param ∧ tail = more := by
  obtain ⟨⟨name', tail'⟩, hread, hname⟩ := bind_eq_ok.mp h
  obtain ⟨rfl, rfl⟩ := groupNameTail_eq hparam hread
  dsimp only at hname
  split at hname
  next => cases hname
  next =>
    cases hname
    exact ⟨String.ofList_toList, rfl⟩

/-- A group whose opening and inside are known reads as just that. -/
theorem atom_group {fuel : Nat} {kind : GroupKind} {body : Ast} {inside : List Char}
    {read : (Ast × Bool) × List Char} (hmode : insideMode false kind = false)
    (hopening : ∀ {opened}, opening false text = .ok opened → opened = (.group kind, inside))
    (hinside : ∀ {fuel read}, alternatives fuel false inside = .ok read →
      read = ((body, false), ')' :: more))
    (h : atom fuel false '(' text = .ok read) : read = ((.group kind body, false), more) := by
  cases fuel with
  | zero => cases h
  | succ fuel =>
      rw [atom_parenthesis] at h
      obtain ⟨opened, hopened, h⟩ := bind_eq_ok.mp h
      obtain rfl := hopening hopened
      dsimp only at h
      rw [hmode] at h
      obtain ⟨body', hbody, h⟩ := bind_eq_ok.mp h
      obtain rfl := hinside hbody
      cases h
      rfl

end Pattern.Read

/-! ## Segments -/

open Rule

namespace Keyword

/-- The tree that the fragment of a keyword is by itself. -/
def tree (k : Keyword) : Ast := (Ast.ofText k.regexp.toList).toOption.getD .empty

/-- The group that a keyword stands for. -/
def groupKind (k : Keyword) : GroupKind :=
  match k.param with
  | some param => .capture (some param)
  | none => .plain []

/-- A fragment is a pattern by itself, made of characters, sets, groups, repetitions, sequences
and alternatives, and the bound parameter can be the name of a group. -/
structure SelfContained (k : Keyword) : Prop where
  reads : ∃ ast, Ast.ofText k.regexp.toList = .ok ast ∧ ast.isPlain = true
  compiles : ∃ regex, Regex.compile k.regexp = .ok regex
  param : ∀ param, k.param = some param → '>' ∉ param.toList

theorem SelfContained.tree {k : Keyword} (h : k.SelfContained) :
    Ast.ofText k.regexp.toList = .ok k.tree ∧ k.tree.isPlain = true := by
  obtain ⟨ast, hast, hplain⟩ := h.reads
  rw [Keyword.tree, hast]
  exact ⟨rfl, hplain⟩

end Keyword

namespace Rule.Segment

/-- The items that a segment reads as. -/
def items : Segment → List Ast
  | literal text => text.toList.map fun c => .literal c false
  | placeholder p =>
      let group := Ast.group p.spec.groupKind p.spec.tree
      if p.hasAffix then
        [.repeated (.group (.plain []) (.sequence
          (p.prepend.toList.map (fun c => .literal c false) ++
            group :: p.append.toList.map fun c => .literal c false))) 0 (some 1) true]
      else [group]

/-- The keyword of a placeholder is self-contained. -/
def SelfContained : Segment → Prop
  | literal _ => True
  | placeholder p => p.spec.SelfContained

theorem isPlain_group {k : Keyword} (hk : k.SelfContained) :
    (Ast.group k.groupKind k.tree).isPlain = true := by
  unfold Keyword.groupKind
  split
  all_goals exact hk.tree.2

theorem isPlain_items {segment : Segment} (hsegment : segment.SelfContained) {item : Ast}
    (hitem : item ∈ segment.items) : item.isPlain = true := by
  cases segment with
  | literal text =>
      obtain ⟨c, -, rfl⟩ := List.mem_map.mp hitem
      rfl
  | placeholder p =>
      have hgroup := isPlain_group hsegment
      unfold items at hitem
      dsimp only at hitem
      split at hitem
      next =>
        rw [List.mem_singleton.mp hitem]
        simp [Ast.isPlain, Ast.isPlain_sequence, hgroup]
      next =>
        rw [List.mem_singleton.mp hitem]
        exact hgroup

end Rule.Segment

namespace Route

variable {more : List Char}

theorem groupText_bound {k : Keyword} {param : String} (h : k.param = some param) :
    groupText k =
      '(' :: '?' :: 'P' :: '<' :: (param.toList ++ '>' :: (k.regexp.toList ++ [')'])) := by
  simp [groupText, h]

theorem groupText_cosmetic {k : Keyword} (h : k.param = none) :
    groupText k = '(' :: '?' :: ':' :: (k.regexp.toList ++ [')']) := by
  simp [groupText, h]

theorem placeholderText_affix {p : Placeholder} (h : p.hasAffix = true) :
    placeholderText p = '(' :: '?' :: ':' :: (Regex.escape p.prepend.toList ++
      (groupText p.spec ++ Regex.escape p.append.toList) ++ [')']) ++ ['?'] := by
  simp [placeholderText, h]

theorem placeholderText_bare {p : Placeholder} (h : p.hasAffix = false) :
    placeholderText p = groupText p.spec := by
  simp [placeholderText, h]

theorem readsAs_groupText {k : Keyword} (hk : k.SelfContained) (hclear : Clear more) :
    ReadsAs (groupText k) [.group k.groupKind k.tree] more := by
  obtain ⟨htree, hplain⟩ := hk.tree
  cases hparam : k.param with
  | none =>
      rw [groupText_cosmetic hparam, Keyword.groupKind, hparam]
      refine readsAs_item (by decide) (by decide) hclear ?_
      intro fuel read h
      refine atom_group rfl ?_ (fun h => alternatives_of_ofText htree hplain h) h
      intro opened hopened
      cases hopened
      simp
  | some param =>
      rw [groupText_bound hparam, Keyword.groupKind, hparam]
      refine readsAs_item (by decide) (by decide) hclear ?_
      intro fuel read h
      refine atom_group rfl ?_ (fun h => alternatives_of_ofText htree hplain h) h
      intro opened hopened
      obtain ⟨⟨name, rest⟩, hname, hopened⟩ := bind_eq_ok.mp hopened
      rw [List.append_eq, List.append_assoc, List.cons_append, List.append_assoc] at hname
      obtain ⟨rfl, rfl⟩ := groupName_eq (hk.param param hparam) hname
      cases hopened
      simp

theorem clear_groupText_append (k : Keyword) (more : List Char) : Clear (groupText k ++ more) := by
  cases hparam : k.param with
  | none =>
      rw [groupText_cosmetic hparam]
      rintro _ ⟨⟩
      decide
  | some param =>
      rw [groupText_bound hparam]
      rintro _ ⟨⟩
      decide

/-- Alternatives that read as items up to a parenthesis or the end are a sequence of them. -/
theorem alternatives_of_readsAs {text : List Char} {items : List Ast} {fuel : Nat}
    {read : (Ast × Bool) × List Char} (hmore : more = [] ∨ ∃ rest, more = ')' :: rest)
    (hreads : ReadsAs text items more) (h : alternatives fuel false (text ++ more) = .ok read) :
    read = ((.sequence items, false), more) := by
  cases fuel with
  | zero => cases h
  | succ fuel =>
      obtain ⟨⟨⟨first, verbose⟩, rest⟩, hfirst, h⟩ := bind_eq_ok.mp h
      obtain ⟨fuel', rest', hrest, hitems⟩ := hreads hfirst
      cases fuel' with
      | zero => cases hrest
      | succ fuel' =>
          dsimp only at hitems
          subst hitems
          rcases hmore with rfl | ⟨behind, rfl⟩
          all_goals
            cases hrest
            cases h
            rfl

theorem readsAs_placeholderText {p : Placeholder} (hp : p.spec.SelfContained)
    (hclear : Clear more) :
    ReadsAs (placeholderText p) (Segment.placeholder p).items more := by
  unfold Segment.items
  dsimp only
  split
  next haffix =>
    -- inside out: the affix behind the group, the group, the affix in front
    have hclose : Clear (')' :: '?' :: more) := by
      rintro _ ⟨⟩
      decide
    have happend := readsAs_escape hclose p.append.toList
    have hgroup := readsAs_groupText hp (clear_escape_append hclose p.append.toList)
    have hprepend := @readsAs_escape _ (clear_groupText_append p.spec
      (Regex.escape p.append.toList ++ ')' :: '?' :: more)) p.prepend.toList
    rw [← List.append_assoc] at hprepend
    have hinside := hprepend.append (hgroup.append happend)
    rw [placeholderText_affix haffix]
    refine readsAs_optional (by decide) (by decide) hclear ?_
    intro fuel read h
    refine atom_group rfl ?_ (fun h => alternatives_of_readsAs (.inr ⟨_, rfl⟩) hinside h) h
    intro opened hopened
    cases hopened
    simp
  next haffix =>
    rw [placeholderText_bare (by simpa using haffix)]
    exact readsAs_groupText hp hclear

theorem readsAs_segmentText {segment : Segment} (hsegment : segment.SelfContained)
    (hclear : Clear more) : ReadsAs (segmentText segment) segment.items more := by
  cases segment with
  | literal text => exact readsAs_escape hclear text.toList
  | placeholder p => exact readsAs_placeholderText hsegment hclear

theorem clear_segmentText_append (hclear : Clear more) (segment : Segment) :
    Clear (segmentText segment ++ more) := by
  cases segment with
  | literal text => exact clear_escape_append hclear text.toList
  | placeholder p =>
      change Clear (placeholderText p ++ more)
      by_cases haffix : p.hasAffix = true
      · rw [placeholderText_affix haffix]
        rintro _ ⟨⟩
        decide
      · rw [placeholderText_bare (by simpa using haffix)]
        exact clear_groupText_append p.spec more

theorem readsAs_segments {segments : List Segment} (hclear : Clear more)
    (hsegments : ∀ segment ∈ segments, segment.SelfContained) :
    ReadsAs (segments.flatMap segmentText) (segments.flatMap Segment.items) more ∧
      Clear (segments.flatMap segmentText ++ more) := by
  induction segments with
  | nil => exact ⟨readsAs_nil more, hclear⟩
  | cons segment segments ih =>
      obtain ⟨hreads, hclear'⟩ := ih fun s hs => hsegments s (List.mem_cons_of_mem _ hs)
      rw [List.flatMap_cons, List.flatMap_cons]
      have hsegment := readsAs_segmentText (hsegments segment List.mem_cons_self) hclear'
      refine ⟨hsegment.append hreads, ?_⟩
      rw [List.append_assoc]
      exact clear_segmentText_append hclear' segment

/-- The pattern of a rule reads as the items of its segments between the two ends of the text. -/
theorem ofText_patternText {segments : List Segment} {ast : Ast}
    (hsegments : ∀ segment ∈ segments, segment.SelfContained)
    (h : Ast.ofText (patternText segments) = .ok ast) :
    ast = .sequence ([.assertion .lineStart, .literal '/' false] ++
      segments.flatMap Segment.items ++ [.assertion .lineEnd]) := by
  have hend : ReadsAs ['$'] [.assertion .lineEnd] [] :=
    readsAs_char (by decide) (by decide) nofun fun _ _ => rfl
  obtain ⟨hmiddle, hclear⟩ := @readsAs_segments ['$'] _ (by rintro _ ⟨⟩; decide) hsegments
  have hslash : ReadsAs ['/'] [.literal '/' false] (segments.flatMap segmentText ++ ['$']) :=
    readsAs_char (by decide) (by decide) hclear fun _ _ => rfl
  have hstart : ReadsAs ['^'] [.assertion .lineStart]
      (['/'] ++ (segments.flatMap segmentText ++ ['$'])) :=
    readsAs_char (by decide) (by decide) (by rintro _ ⟨⟩; decide) fun _ _ => rfl
  have hwhole := ((hstart.append hslash).append hmiddle).append hend
  obtain ⟨verbose, hread, -⟩ := ofText_reads h
  rw [← List.append_nil (patternText segments)] at hread
  cases alternatives_of_readsAs (.inl rfl) hwhole hread
  rfl

end Route

end Waymark
