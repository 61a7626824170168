import Waymark.Pattern.Elaborate
import Waymark.Proofs.Pattern.Language
import Waymark.Proofs.Pattern.Locality

/-! # The meaning of a tree

Elaboration keeps the groups of a tree in order. A tree without conditions and flags means a
pattern that spells a language, and leaves the flags around it as they are. A sequence of items
means their patterns one after another.
-/

namespace Waymark.Pattern

deriving instance DecidableEq for SetAst

deriving instance DecidableEq for Ast

namespace GroupKind

/-- The flags that a group sets for its inside. -/
def settings : GroupKind → List (Flag × Bool)
  | plain items => items
  | capture _ => []

/-- The pattern of a group with a given inside. -/
def wrap : GroupKind → Expr → Expr
  | capture (some name), e => .capture name e
  | _, e => e

end GroupKind

namespace Expr

variable {flags behind : Flags} {ast : Ast} {e : Expr}

theorem groupNames_repetition (body : Expr) (low : Nat) (high : Option Nat) (greedy : Bool) :
    (repetition body low high greedy).groupNames = body.groupNames := by
  unfold repetition
  split <;> rfl

theorem isPlain_repetition (body : Expr) (low : Nat) (high : Option Nat) (greedy : Bool) :
    (repetition body low high greedy).isPlain = body.isPlain := by
  unfold repetition
  split <;> rfl

theorem ofLiteral_eq {c : Char} {isByte : Bool} (h : ofLiteral flags c isByte = .ok e) :
    ∃ set, e = one set := by
  unfold ofLiteral at h
  split at h
  next =>
    cases h
    exact ⟨_, rfl⟩
  next => cases h

theorem elaborate_group {kind : GroupKind} {body : Ast} :
    elaborate flags (.group kind body) =
      (elaborate (flags.setAll kind.settings) body).map fun read => (kind.wrap read.1, flags) := by
  cases kind with
  | plain items =>
      rw [elaborate]
      rfl
  | capture name =>
      cases name with
      | none =>
          rw [elaborate]
          rfl
      | some name =>
          rw [elaborate]
          rfl

theorem groupNames_elaborate (h : elaborate flags ast = .ok (e, behind)) :
    e.groupNames = ast.groupNames := by
  induction ast generalizing flags e behind with
  | empty | assertion | flags =>
      cases h
      rfl
  | dot =>
      simp only [elaborate] at h
      split at h
      next =>
        cases h
        rfl
      next => cases h
  | literal =>
      obtain ⟨e', he', h⟩ := bind_eq_ok.mp h
      cases h
      obtain ⟨set, rfl⟩ := ofLiteral_eq he'
      rfl
  | perl | property =>
      obtain ⟨set, -, h⟩ := bind_eq_ok.mp h
      cases h
      rfl
  | bracketed negated inner =>
      obtain ⟨set, -, h⟩ := bind_eq_ok.mp h
      obtain ⟨set', -, h⟩ := bind_eq_ok.mp h
      cases h
      rfl
  | group kind body ih =>
      rw [elaborate_group] at h
      obtain ⟨⟨inner, after⟩, hbody, h⟩ := map_eq_ok.mp h
      cases h
      have hinner := ih hbody
      match kind with
      | .plain _ => exact hinner
      | .capture none => exact hinner
      | .capture (some name) => rw [GroupKind.wrap, groupNames, hinner, Ast.groupNames]
  | repeated body low high greedy ih =>
      obtain ⟨⟨e', behind'⟩, hbody, h⟩ := bind_eq_ok.mp h
      cases h
      rw [groupNames_repetition, ih hbody, Ast.groupNames]
  | cat x y ihx ihy | alt x y ihx ihy =>
      obtain ⟨⟨e', behind'⟩, hx, h⟩ := bind_eq_ok.mp h
      obtain ⟨⟨e'', behind''⟩, hy, h⟩ := bind_eq_ok.mp h
      cases h
      rw [groupNames, ihx hx, ihy hy, Ast.groupNames]

/-- A plain tree leaves the flags as they are and means a pattern that spells a language. -/
theorem isPlain_elaborate (h : elaborate flags ast = .ok (e, behind))
    (hplain : ast.isPlain = true) : behind = flags ∧ e.isPlain = true := by
  induction ast generalizing flags e behind with
  | empty =>
      cases h
      exact ⟨rfl, rfl⟩
  | assertion | flags => simp [Ast.isPlain] at hplain
  | dot =>
      simp only [elaborate] at h
      split at h
      next =>
        cases h
        exact ⟨rfl, rfl⟩
      next => cases h
  | literal =>
      obtain ⟨e', he', h⟩ := bind_eq_ok.mp h
      cases h
      obtain ⟨set, rfl⟩ := ofLiteral_eq he'
      exact ⟨rfl, rfl⟩
  | perl | property =>
      obtain ⟨set, -, h⟩ := bind_eq_ok.mp h
      cases h
      exact ⟨rfl, rfl⟩
  | bracketed negated inner =>
      obtain ⟨set, -, h⟩ := bind_eq_ok.mp h
      obtain ⟨set', -, h⟩ := bind_eq_ok.mp h
      cases h
      exact ⟨rfl, rfl⟩
  | group kind body ih =>
      rw [elaborate_group] at h
      obtain ⟨⟨inner, after⟩, hbody, h⟩ := map_eq_ok.mp h
      cases h
      refine ⟨rfl, ?_⟩
      have hinner := (ih hbody (Read.insideMode_of_isPlain hplain).2).2
      cases kind with
      | plain => exact hinner
      | capture name => cases name <;> exact hinner
  | repeated body low high greedy ih =>
      obtain ⟨⟨e', behind'⟩, hbody, h⟩ := bind_eq_ok.mp h
      cases h
      obtain ⟨rfl, hplain'⟩ := ih hbody hplain
      exact ⟨rfl, by rw [isPlain_repetition, hplain']⟩
  | cat x y ihx ihy | alt x y ihx ihy =>
      simp only [Ast.isPlain, Bool.and_eq_true] at hplain
      obtain ⟨⟨e', behind'⟩, hx, h⟩ := bind_eq_ok.mp h
      obtain ⟨⟨e'', behind''⟩, hy, h⟩ := bind_eq_ok.mp h
      cases h
      obtain ⟨rfl, hx'⟩ := ihx hx hplain.1
      obtain ⟨rfl, hy'⟩ := ihy hy hplain.2
      exact ⟨rfl, by rw [isPlain, hx', hy']; rfl⟩

end Expr

/-! ## Sequences -/

/-- The tree of some items one after another. -/
def Ast.sequence (items : List Ast) : Ast := items.foldr Ast.append .empty

theorem Ast.isPlain_sequence (items : List Ast) :
    (Ast.sequence items).isPlain = items.all Ast.isPlain := by
  induction items with
  | nil => rfl
  | cons item items ih =>
      rw [List.all_cons, ← ih]
      exact isPlain_append item _

namespace Expr

/-- A pattern leads as two others do one behind the other, and has their groups in order. -/
structure IsCat (e a b : Expr) : Prop where
  steps : ∀ s u, Steps e s u ↔ ∃ t, Steps a s t ∧ Steps b t u
  groupNames : e.groupNames = a.groupNames ++ b.groupNames

variable {a b c d e : Expr}

theorem isCat_cat (a b : Expr) : IsCat (cat a b) a b := by
  refine ⟨fun s u => ⟨?_, ?_⟩, rfl⟩
  · intro h
    cases h with
    | cat first second => exact ⟨_, first, second⟩
  · rintro ⟨t, first, second⟩
    exact .cat first second

theorem isCat_empty (a : Expr) : IsCat a a empty := by
  refine ⟨fun s u => ⟨fun h => ⟨u, h, .empty u⟩, ?_⟩, (List.append_nil _).symm⟩
  rintro ⟨t, first, second⟩
  cases second
  exact first

theorem empty_isCat (a : Expr) : IsCat a empty a := by
  refine ⟨fun s u => ⟨fun h => ⟨s, .empty s, h⟩, ?_⟩, rfl⟩
  rintro ⟨t, first, second⟩
  cases first
  exact second

/-- Sequences associate. -/
theorem IsCat.assoc {ab bc : Expr} (h : IsCat e a bc) (hbc : IsCat bc b c) (hab : IsCat ab a b) :
    IsCat e ab c := by
  refine ⟨fun s u => ⟨?_, ?_⟩, ?_⟩
  · intro hsu
    obtain ⟨t, hst, htu⟩ := (h.steps s u).mp hsu
    obtain ⟨v, htv, hvu⟩ := (hbc.steps t u).mp htu
    exact ⟨v, (hab.steps s v).mpr ⟨t, hst, htv⟩, hvu⟩
  · rintro ⟨v, hsv, hvu⟩
    obtain ⟨t, hst, htv⟩ := (hab.steps s v).mp hsv
    exact (h.steps s u).mpr ⟨t, hst, (hbc.steps t u).mpr ⟨v, htv, hvu⟩⟩
  · rw [h.groupNames, hbc.groupNames, hab.groupNames, List.append_assoc]

variable {flags behind : Flags} {item rest : Ast} {items others : List Ast}

theorem elaborate_append (h : elaborate flags (item.append rest) = .ok (e, behind)) :
    ∃ a between b, elaborate flags item = .ok (a, between) ∧
      elaborate between rest = .ok (b, behind) ∧ IsCat e a b := by
  unfold Ast.append at h
  split at h
  next => exact ⟨e, behind, .empty, h, rfl, isCat_empty e⟩
  next =>
    obtain ⟨⟨a, between⟩, ha, h⟩ := bind_eq_ok.mp h
    obtain ⟨⟨b, behind'⟩, hb, h⟩ := bind_eq_ok.mp h
    cases h
    exact ⟨a, between, b, ha, hb, isCat_cat a b⟩

theorem exists_elaborate_append {between : Flags} {a b : Expr}
    (ha : elaborate flags item = .ok (a, between)) (hb : elaborate between rest = .ok (b, behind)) :
    ∃ e, elaborate flags (item.append rest) = .ok (e, behind) ∧ IsCat e a b := by
  unfold Ast.append
  split
  next =>
    cases hb
    exact ⟨a, ha, isCat_empty a⟩
  next => exact ⟨cat a b, bind_eq_ok.mpr ⟨_, ha, bind_eq_ok.mpr ⟨_, hb, rfl⟩⟩, isCat_cat a b⟩

/-- Items that leave the flags as they are mean one pattern behind the other. -/
theorem elaborate_sequence_append
    (hitems : ∀ item ∈ items, ∀ flags e behind,
      elaborate flags item = .ok (e, behind) → behind = flags)
    (h : elaborate flags (.sequence (items ++ others)) = .ok (e, behind)) :
    ∃ a b, elaborate flags (.sequence items) = .ok (a, flags) ∧
      elaborate flags (.sequence others) = .ok (b, behind) ∧ IsCat e a b := by
  induction items generalizing e with
  | nil => exact ⟨empty, e, rfl, h, empty_isCat e⟩
  | cons item items ih =>
      -- `item` leads with the rest as `a` does with `bc`, and `bc` is `b` with `c`
      obtain ⟨a, between, bc, ha, hbc, he⟩ := elaborate_append h
      obtain rfl := hitems item List.mem_cons_self _ _ _ ha
      obtain ⟨b, c, hb, hc, hbc'⟩ := ih (fun x hx => hitems x (List.mem_cons_of_mem _ hx)) hbc
      obtain ⟨ab, hab, hab'⟩ := exists_elaborate_append ha hb
      exact ⟨ab, c, hab, hc, he.assoc hbc' hab'⟩

end Expr

end Waymark.Pattern
