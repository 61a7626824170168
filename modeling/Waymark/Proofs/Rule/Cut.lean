import Mathlib.Data.List.Chain
import Mathlib.Data.List.TakeWhile
import Waymark.Proofs.Outcome
import Waymark.Proofs.Rule.Mention
import Waymark.Proofs.Route.Compile

/-! # Which rules can be cut into pieces

The braces of a rule have to alternate, and only they decide. If they do, there is one way to cut
the rule. If they do not, there is a first brace out of place: a closing one in front of which none
is open, or an opening one that is not closed before the next brace.
-/

namespace Waymark.Rule

variable {text before body after front back : List Char} {brace : Char} {pieces : List Piece}
  {offset position : Nat}

/-- The braces of a text, in order. -/
def braces (text : List Char) : List Char := text.filter isBrace

/-- Braces are opened and closed in turn. -/
inductive Alternate : List Char → Prop
  | nil : Alternate []
  | pair {rest : List Char} (h : Alternate rest) : Alternate ('\x7b' :: '\x7d' :: rest)

/-- The braces of a text are opened and closed in turn. -/
def WellBraced (text : List Char) : Prop := Alternate (braces text)

/-- A brace is out of place: it closes where none is open, or it opens and the next one does not
close. -/
def OutOfPlace (front : List Char) (brace : Char) (back : List Char) : Prop :=
  brace = '\x7d' ∧ (braces front).getLast? ≠ some '\x7b' ∨
    brace = '\x7b' ∧ (braces back).head? ≠ some '\x7d'

/-- The first brace of a text that is out of place stands behind a number of bytes. -/
def FirstOutOfPlace (text : List Char) (position : Nat) : Prop :=
  ∃ front brace back, text = front ++ brace :: back ∧ OutOfPlace front brace back ∧
    position = Text.byteLength front ∧
    ∀ front' brace' back', text = front' ++ brace' :: back' → OutOfPlace front' brace' back' →
      front.length ≤ front'.length

/-! ## Braces -/

@[simp]
theorem braces_append (front back : List Char) :
    braces (front ++ back) = braces front ++ braces back :=
  List.filter_append ..

theorem braces_cons_of_isBrace (h : isBrace brace = true) (text : List Char) :
    braces (brace :: text) = brace :: braces text :=
  List.filter_cons_of_pos h

theorem braces_eq_nil_iff : braces text = [] ↔ Braceless text := by
  simp [braces, Braceless]

theorem Braceless.braces (h : Braceless text) : braces text = [] := braces_eq_nil_iff.mpr h

/-- A token with the text in front of it has two braces. -/
theorem braces_token (hbefore : Braceless before) (hbody : Braceless body) :
    braces (before ++ '\x7b' :: (body ++ ['\x7d'])) = ['\x7b', '\x7d'] := by
  rw [braces_append, hbefore.braces, List.nil_append, braces_cons_of_isBrace rfl, braces_append,
    hbody.braces]
  rfl

theorem byteLength_token (before body : List Char) :
    Text.byteLength (before ++ '\x7b' :: (body ++ ['\x7d'])) =
      Text.byteLength before + Text.byteLength body + 2 := by
  have hopen : Char.utf8Size '\x7b' = 1 := rfl
  have hclose : Char.utf8Size '\x7d' = 1 := rfl
  simp only [Text.byteLength_append, Text.byteLength, hopen, hclose]
  omega

theorem OutOfPlace.isBrace (h : OutOfPlace front brace back) : isBrace brace = true := by
  obtain ⟨rfl, -⟩ | ⟨rfl, -⟩ := h <;> rfl

/-- Where braces alternate, none is out of place. -/
theorem WellBraced.not_outOfPlace (h : WellBraced (front ++ brace :: back)) :
    ¬ OutOfPlace front brace back := by
  intro hout
  unfold WellBraced at h
  rw [braces_append, braces_cons_of_isBrace hout.isBrace] at h
  unfold OutOfPlace at hout
  -- the induction takes pairs of braces off the front
  generalize braces front = opened, braces back = closing at h hout
  generalize hall : opened ++ brace :: closing = all at h
  induction h generalizing opened with
  | nil => simp at hall
  | pair h ih =>
      match opened with
      | [] =>
          cases hall
          simp at hout
      | [c] =>
          cases hall
          simp at hout
      | c :: d :: opened =>
          cases hall
          refine ih opened ?_ rfl
          rcases hout with ⟨hbrace, hlast⟩ | hopens
          · refine .inl ⟨hbrace, fun hopen => hlast ?_⟩
            simp [List.getLast?_cons, hopen]
          · exact .inr hopens

/-- Behind text whose braces are one pair, braces are out of place if they would be by
themselves. -/
theorem outOfPlace_append_iff {pair : List Char} (hpair : braces pair = ['\x7b', '\x7d']) :
    OutOfPlace (pair ++ front) brace back ↔ OutOfPlace front brace back := by
  unfold OutOfPlace
  rw [braces_append, hpair, List.getLast?_append]
  cases hfront : (braces front).getLast? with
  | none => simp
  | some c => simp

/-- In front of such text and in it, no brace is out of place. -/
theorem OutOfPlace.behind_pair {pair : List Char} (hpair : braces pair = ['\x7b', '\x7d'])
    (htext : pair ++ after = front ++ brace :: back) (hout : OutOfPlace front brace back) :
    ∃ front', front = pair ++ front' ∧ after = front' ++ brace :: back := by
  rcases List.append_eq_append_iff.mp htext with ⟨front', rfl, hafter⟩ | ⟨behind, hpair', hafter⟩
  · exact ⟨front', rfl, hafter⟩
  · cases behind with
    | nil => exact ⟨[], by rw [hpair', List.append_nil, List.append_nil], hafter.symm⟩
    | cons c behind =>
        rw [List.cons_append] at hafter
        obtain ⟨rfl, rfl⟩ := List.cons.inj hafter
        rw [hpair', braces_append, braces_cons_of_isBrace hout.isBrace] at hpair
        unfold OutOfPlace at hout
        rw [braces_append] at hout
        -- the brace is the first of the pair, or the second
        match hfront : braces front, hpair with
        | [], hpair =>
            obtain ⟨rfl, hclose⟩ := List.cons.inj hpair
            simp [hclose] at hout
        | [opened], hpair =>
            obtain ⟨rfl, hclose⟩ := List.cons.inj hpair
            obtain ⟨rfl, -⟩ := List.cons.inj hclose
            simp [hfront] at hout
        | _ :: _ :: opened, hpair => simp at hpair

/-- A brace out of place is the first one if no brace stands in front of it. -/
theorem firstOutOfPlace_of_braceless (hbefore : Braceless before)
    (hout : OutOfPlace before brace after) :
    FirstOutOfPlace (before ++ brace :: after) (Text.byteLength before) := by
  refine ⟨before, brace, after, rfl, hout, rfl, fun front' brace' back' htext hout' => ?_⟩
  rcases List.append_eq_append_iff.mp htext with ⟨front, rfl, -⟩ | ⟨behind, rfl, hbehind⟩
  · simp
  · cases behind with
    | nil => simp
    | cons c behind =>
        obtain ⟨rfl, -⟩ := List.cons.inj hbehind
        have hmem := hbefore brace' (by simp)
        cases hmem.symm.trans hout'.isBrace

/-- Behind text whose braces are one pair, the first brace out of place is the first one. -/
theorem FirstOutOfPlace.append {pair : List Char} (hpair : braces pair = ['\x7b', '\x7d'])
    (h : FirstOutOfPlace after position) :
    FirstOutOfPlace (pair ++ after) (Text.byteLength pair + position) := by
  obtain ⟨front, brace, back, rfl, hout, rfl, hfirst⟩ := h
  refine ⟨pair ++ front, brace, back, (List.append_assoc ..).symm,
    (outOfPlace_append_iff hpair).mpr hout, (Text.byteLength_append ..).symm, ?_⟩
  intro front' brace' back' htext hout'
  obtain ⟨front', rfl, hafter⟩ := hout'.behind_pair hpair htext
  have hle := hfirst front' brace' back' hafter ((outOfPlace_append_iff hpair).mp hout')
  simpa using hle

/-- There is one first brace out of place at most. -/
theorem FirstOutOfPlace.unique {other : Nat} (h : FirstOutOfPlace text position)
    (h' : FirstOutOfPlace text other) : position = other := by
  obtain ⟨front, brace, back, htext, hout, rfl, hfirst⟩ := h
  obtain ⟨front', brace', back', htext', hout', rfl, hfirst'⟩ := h'
  have hle := hfirst front' brace' back' htext' hout'
  have hle' := hfirst' front brace back htext hout
  obtain ⟨rfl, -⟩ := List.append_inj (htext.symm.trans htext') (Nat.le_antisymm hle hle')
  rfl

/-! ## The scan -/

theorem braceless_of_fromBrace (h : fromBrace text = []) : Braceless text := by
  have happend := beforeBrace_append_fromBrace text
  rw [h, List.append_nil] at happend
  rw [← happend]
  exact braceless_beforeBrace text

/-- The first brace behind a text without braces is the one that follows. -/
theorem head?_braces (text : List Char) : (braces text).head? = (fromBrace text).head? := by
  unfold braces fromBrace
  rw [List.head?_filter, ← List.find?_eq_head?_dropWhile_not]

theorem eq_open_of_fromBrace (h : fromBrace text = brace :: after) (hne : brace ≠ '\x7d') :
    brace = '\x7b' := by
  have hbrace := isBrace_of_fromBrace h
  simpa [isBrace, hne] using hbrace

/-- The text in front of a token, the token and what is behind it. -/
theorem eq_token_append {rest : List Char} (hfrom : fromBrace text = '\x7b' :: rest)
    (hrest : fromBrace rest = '\x7d' :: after) :
    text = (beforeBrace text ++ '\x7b' :: (beforeBrace rest ++ ['\x7d'])) ++ after := by
  rw [List.append_assoc, List.cons_append, List.append_assoc, List.singleton_append,
    ← eq_append_of_fromBrace hrest]
  exact eq_append_of_fromBrace hfrom

/-- What stops the scan is the first brace out of place. -/
theorem firstOutOfPlace_of_ofRule (h : Piece.ofRule offset text = .error position) :
    ∃ inside, position = offset + inside ∧ FirstOutOfPlace text inside := by
  fun_induction Piece.ofRule offset text generalizing position with
  | case1 => cases h
  | case2 offset text rest =>
      rename_i hfrom
      cases h
      refine ⟨_, rfl, ?_⟩
      have hbefore := braceless_beforeBrace text
      have hout : OutOfPlace (beforeBrace text) '\x7d' rest := .inl ⟨rfl, by simp [hbefore.braces]⟩
      have hfirst := firstOutOfPlace_of_braceless hbefore hout
      rwa [← eq_append_of_fromBrace hfrom] at hfirst
  | case3 offset text brace rest hfrom position' hbrace after hrest body =>
      rename_i ih
      obtain rfl := eq_open_of_fromBrace hfrom hbrace
      have hpair := braces_token (braceless_beforeBrace text) (braceless_beforeBrace rest)
      obtain hafter | ⟨pieces, -, hpieces⟩ := bind_eq_error.mp h
      · obtain ⟨inside, rfl, hfirst⟩ := ih hafter
        replace hfirst := hfirst.append hpair
        rw [← eq_token_append hfrom hrest] at hfirst
        refine ⟨_, ?_, hfirst⟩
        rw [byteLength_token]
        simp only [position', body]
        omega
      · cases hpieces
  | case4 offset text brace rest hfrom position' hbrace =>
      rename_i hnot
      cases h
      refine ⟨_, rfl, ?_⟩
      obtain rfl := eq_open_of_fromBrace hfrom hbrace
      have hnext : (braces rest).head? ≠ some '\x7d' := by
        rw [head?_braces]
        intro hhead
        obtain ⟨after, hafter⟩ := List.head?_eq_some_iff.mp hhead
        exact hnot after hafter
      have hfirst := firstOutOfPlace_of_braceless (braceless_beforeBrace text) (.inr ⟨rfl, hnext⟩)
      rwa [← eq_append_of_fromBrace hfrom] at hfirst

/-! ## Cuts -/

namespace Piece

/-- Whether a piece is literal text. -/
def IsLiteral : Piece → Prop
  | literal _ => True
  | token _ _ => False

/-- Some pieces are the pieces of a text that has an offset: written one after another they give
the text, there is as little literal text as possible, and every token tells where it stands. -/
structure IsCut (offset : Nat) (text : List Char) (pieces : List Piece) : Prop where
  render_eq : render pieces = text
  literal_nonempty : ∀ words, literal words ∈ pieces → words ≠ []
  literal_braceless : ∀ words, literal words ∈ pieces → Braceless words
  body_braceless : ∀ body position, token body position ∈ pieces → Braceless body
  literals_apart : pieces.IsChain fun piece next => ¬ (piece.IsLiteral ∧ next.IsLiteral)
  position_eq : ∀ front body position back, pieces = front ++ token body position :: back →
    position = offset + Text.byteLength (render front)

/-- What a piece at an offset has to be by itself. -/
def Stands (offset : Nat) : Piece → Prop
  | literal words => words ≠ [] ∧ Braceless words
  | token body position => Braceless body ∧ position = offset

theorem isCut_nil_iff : IsCut offset text [] ↔ text = [] := by
  constructor
  · intro h
    exact h.render_eq.symm
  · rintro rfl
    exact ⟨rfl, nofun, nofun, nofun, .nil, by simp⟩

/-- A cut is a first piece and a cut of what is behind it. -/
theorem isCut_cons_iff {piece : Piece} : IsCut offset text (piece :: pieces) ↔
    piece.Stands offset ∧ (∀ next ∈ pieces.head?, ¬ (piece.IsLiteral ∧ next.IsLiteral)) ∧
      ∃ rest, text = piece.text ++ rest ∧
        IsCut (offset + Text.byteLength piece.text) rest pieces := by
  constructor
  · intro h
    obtain ⟨hnext, hapart⟩ := List.isChain_cons.mp h.literals_apart
    refine ⟨?_, hnext, render pieces, h.render_eq.symm, rfl, ?_, ?_, ?_, hapart, ?_⟩
    · cases piece with
      | literal words =>
          exact ⟨h.literal_nonempty words List.mem_cons_self,
            h.literal_braceless words List.mem_cons_self⟩
      | token body position =>
          exact ⟨h.body_braceless body position List.mem_cons_self,
            h.position_eq [] body position pieces rfl⟩
    · exact fun words hmem => h.literal_nonempty words (List.mem_cons_of_mem _ hmem)
    · exact fun words hmem => h.literal_braceless words (List.mem_cons_of_mem _ hmem)
    · exact fun body position hmem => h.body_braceless body position (List.mem_cons_of_mem _ hmem)
    · rintro front body position back rfl
      rw [h.position_eq (piece :: front) body position back rfl, Nat.add_assoc,
        ← Text.byteLength_append]
      rfl
  · rintro ⟨hstands, hnext, rest, rfl, hrest⟩
    refine ⟨congrArg _ hrest.render_eq, ?_, ?_, ?_,
      List.isChain_cons.mpr ⟨hnext, hrest.literals_apart⟩, ?_⟩
    · rintro words (_ | ⟨_, hmem⟩)
      · exact hstands.1
      · exact hrest.literal_nonempty words hmem
    · rintro words (_ | ⟨_, hmem⟩)
      · exact hstands.2
      · exact hrest.literal_braceless words hmem
    · rintro body position (_ | ⟨_, hmem⟩)
      · exact hstands.1
      · exact hrest.body_braceless body position hmem
    · intro front body position back heq
      cases front with
      | nil =>
          obtain ⟨rfl, -⟩ := List.cons.inj heq
          exact hstands.2
      | cons first front =>
          obtain ⟨rfl, hpieces⟩ := List.cons.inj heq
          rw [hrest.position_eq front body position back hpieces, Nat.add_assoc,
            ← Text.byteLength_append]
          rfl

theorem byteLength_text_token (body : List Char) (position : Nat) :
    Text.byteLength (token body position).text = Text.byteLength body + 2 := by
  have hlength := byteLength_token [] body
  rwa [List.nil_append, Text.byteLength, Nat.zero_add] at hlength

/-- A token in front of a cut. -/
theorem IsCut.token_cons (hbody : Braceless body)
    (h : IsCut (offset + Text.byteLength body + 2) after pieces) :
    IsCut offset ('\x7b' :: (body ++ ['\x7d']) ++ after) (token body offset :: pieces) := by
  refine isCut_cons_iff.mpr ⟨⟨hbody, rfl⟩, fun _ _ hboth => hboth.1, after, rfl, ?_⟩
  rwa [byteLength_text_token, ← Nat.add_assoc]

/-- A token with the text in front of it, in front of a cut. -/
theorem IsCut.token_append (hbefore : Braceless before) (hbody : Braceless body)
    (h : IsCut (offset + Text.byteLength before + Text.byteLength body + 2) after pieces) :
    IsCut offset ((before ++ '\x7b' :: (body ++ ['\x7d'])) ++ after)
      (ofText before ++ token body (offset + Text.byteLength before) :: pieces) := by
  have htoken := h.token_cons hbody
  unfold ofText
  split
  next hempty =>
    subst hempty
    exact htoken
  next hnonempty =>
    rw [List.append_assoc]
    exact isCut_cons_iff.mpr ⟨⟨hnonempty, hbefore⟩, by simp [IsLiteral], _, rfl, htoken⟩

theorem isCut_ofText (h : Braceless text) : IsCut offset text (ofText text) := by
  unfold ofText
  split
  next hempty => exact isCut_nil_iff.mpr hempty
  next hnonempty =>
    exact isCut_cons_iff.mpr ⟨⟨hnonempty, h⟩, nofun, [], (List.append_nil _).symm,
      isCut_nil_iff.mpr rfl⟩

/-- What the scan answers is a cut. -/
theorem isCut_of_ofRule (h : ofRule offset text = .ok pieces) : IsCut offset text pieces := by
  fun_induction ofRule offset text generalizing pieces with
  | case1 offset text hfrom =>
      cases h
      have htext := braceless_of_fromBrace hfrom
      rw [beforeBrace_eq_self htext]
      exact isCut_ofText htext
  | case2 => cases h
  | case3 offset text brace rest hfrom position hbrace after hrest body =>
      rename_i ih
      obtain rfl := eq_open_of_fromBrace hfrom hbrace
      obtain ⟨behind, hbehind, h⟩ := bind_eq_ok.mp h
      cases h
      have hcut := (ih hbehind).token_append (braceless_beforeBrace text)
        (braceless_beforeBrace rest)
      rwa [← eq_token_append hfrom hrest] at hcut
  | case4 => cases h

/-- The scan finds every cut. -/
theorem ofRule_of_isCut {offset : Nat} {text : List Char} :
    ∀ {pieces : List Piece}, IsCut offset text pieces → ofRule offset text = .ok pieces
  | [], h => by
      rw [isCut_nil_iff.mp h]
      exact ofRule_of_braceless nofun
  | [literal words], h => by
      obtain ⟨⟨hnonempty, hbraceless⟩, -, rest, rfl, hrest⟩ := isCut_cons_iff.mp h
      rw [isCut_nil_iff.mp hrest, List.append_nil, Piece.text, ofRule_of_braceless hbraceless,
        ofText, if_neg hnonempty]
  | literal words :: literal more :: pieces, h => by
      obtain ⟨-, hnext, -⟩ := isCut_cons_iff.mp h
      exact absurd ⟨trivial, trivial⟩ (hnext _ rfl)
  | literal words :: token body position :: pieces, h => by
      obtain ⟨⟨hnonempty, hbraceless⟩, -, rest, rfl, hrest⟩ := isCut_cons_iff.mp h
      obtain ⟨⟨hbody, rfl⟩, -, behind, rfl, hbehind⟩ := isCut_cons_iff.mp hrest
      rw [byteLength_text_token, ← Nat.add_assoc] at hbehind
      have hfound := ofRule_token hbraceless hbody (ofRule_of_isCut hbehind)
      simpa [Piece.text, ofText, hnonempty] using hfound
  | token body position :: pieces, h => by
      obtain ⟨⟨hbody, rfl⟩, -, behind, rfl, hbehind⟩ := isCut_cons_iff.mp h
      rw [byteLength_text_token, ← Nat.add_assoc] at hbehind
      have hfound := @ofRule_token [] body behind position pieces nofun hbody
        (ofRule_of_isCut hbehind)
      simpa [Piece.text, ofText, Text.byteLength] using hfound

theorem ofRule_eq_ok_iff : ofRule offset text = .ok pieces ↔ IsCut offset text pieces :=
  ⟨isCut_of_ofRule, ofRule_of_isCut⟩

/-- The braces of a cut are those of its tokens. -/
theorem IsCut.wellBraced (h : IsCut offset text pieces) : WellBraced text := by
  induction pieces generalizing offset text with
  | nil =>
      rw [isCut_nil_iff.mp h]
      exact .nil
  | cons piece pieces ih =>
      obtain ⟨hstands, -, rest, rfl, hrest⟩ := isCut_cons_iff.mp h
      have hbraces := ih hrest
      unfold WellBraced at hbraces ⊢
      rw [braces_append]
      cases piece with
      | literal words =>
          rw [Piece.text, hstands.2.braces]
          exact hbraces
      | token body position =>
          have htoken := @braces_token [] body nofun hstands.1
          rw [List.nil_append] at htoken
          rw [Piece.text, List.cons_append, htoken]
          exact .pair hbraces

end Piece

theorem exists_ofRule_iff :
    (∃ pieces, Piece.ofRule offset text = .ok pieces) ↔ WellBraced text := by
  constructor
  · rintro ⟨pieces, h⟩
    exact (Piece.isCut_of_ofRule h).wellBraced
  · intro h
    cases hscan : Piece.ofRule offset text with
    | ok pieces => exact ⟨pieces, rfl⟩
    | error position =>
        obtain ⟨inside, -, front, brace, back, rfl, hout, -⟩ := firstOutOfPlace_of_ofRule hscan
        exact absurd hout h.not_outOfPlace

theorem ofRule_eq_error_iff :
    Piece.ofRule 0 text = .error position ↔ FirstOutOfPlace text position := by
  constructor
  · intro h
    obtain ⟨inside, rfl, hfirst⟩ := firstOutOfPlace_of_ofRule h
    rwa [Nat.zero_add]
  · intro h
    cases hscan : Piece.ofRule 0 text with
    | ok pieces =>
        obtain ⟨front, brace, back, rfl, hout, -⟩ := h
        exact absurd hout (exists_ofRule_iff.mp ⟨pieces, hscan⟩).not_outOfPlace
    | error other =>
        obtain ⟨inside, rfl, hfirst⟩ := firstOutOfPlace_of_ofRule hscan
        rw [Nat.zero_add, hfirst.unique h]

/-- A brace out of place is reported whatever the tokens hold. -/
theorem compile_of_firstOutOfPlace {t : Template} (h : FirstOutOfPlace t.rule.toList position) :
    Route.compile t = .error (.malformedPlaceholder t.rule position) := by
  refine bind_eq_error.mpr (.inl ?_)
  unfold segments
  rw [ofRule_eq_error_iff.mpr h]

/-- A rule can be cut exactly if its braces alternate, and in one way. Otherwise the first brace
out of place is reported, before anything that is wrong with a token. -/
theorem rule_cut (t : Template) :
    ((∃ pieces, Piece.ofRule 0 t.rule.toList = .ok pieces) ↔ WellBraced t.rule.toList) ∧
      (∀ pieces, Piece.ofRule 0 t.rule.toList = .ok pieces ↔
        Piece.IsCut 0 t.rule.toList pieces) ∧
      (∀ position, Piece.ofRule 0 t.rule.toList = .error position ↔
        FirstOutOfPlace t.rule.toList position) ∧
      ∀ position, FirstOutOfPlace t.rule.toList position →
        Route.compile t = .error (.malformedPlaceholder t.rule position) :=
  ⟨exists_ofRule_iff, fun _ => Piece.ofRule_eq_ok_iff, fun _ => ofRule_eq_error_iff,
    fun _ => compile_of_firstOutOfPlace⟩

/-- A rule whose second token is opened twice, with an unknown keyword in the first. -/
def openedTwice : Template :=
  ⟨"cafe", "\u00e9\x7bslug\x7d-\x7bid\x7bid\x7d", none, .empty, .empty⟩

theorem rule_cut_openedTwice :
    FirstOutOfPlace openedTwice.rule.toList 9 ∧
      Route.compile openedTwice = .error (.malformedPlaceholder openedTwice.rule 9) := by
  obtain ⟨-, -, hfirst, hcompile⟩ := rule_cut openedTwice
  have hposition := (hfirst 9).mp (by decide +kernel)
  exact ⟨hposition, hcompile 9 hposition⟩

end Waymark.Rule
