import Waymark.Proofs.Families
import Waymark.Proofs.Rule.Mention

/-! # What the check of custom rules is worth

A custom rule may take the place of a family's own rule if it mentions every keyword that the
family demands. The rule that is accepted is compiled against the same vocabulary, so the
question is whether a keyword that is mentioned has a placeholder. It has, unless it stands in
the affix of another one.
-/

namespace Waymark

open Rule

namespace Rule

variable {vocabulary : OrderedMap String Keyword} {body : List Char} {name : String}

/-- A name stands in a body to the left of another keyword, and so in its affix. -/
def Shadowed (vocabulary : OrderedMap String Keyword) (name : String) (body : List Char) : Prop :=
  ∃ front back other, Text.splitAll ':' body = front ++ name.toList :: back ∧
    other.toList ∈ back ∧ vocabulary.contains other = true ∧ other ≠ name

theorem Shadowed.mem (h : Shadowed vocabulary name body) :
    name.toList ∈ Text.splitAll ':' body := by
  obtain ⟨front, back, _, hparts, -⟩ := h
  rw [hparts]
  simp

/-- What is at one place of a list is related to what is at that place of the other. -/
theorem exists_of_forall₂ {α β : Type} {R : α → β → Prop} {as : List α} {bs : List β} {a : α}
    (h : List.Forall₂ R as bs) (ha : a ∈ as) : ∃ b ∈ bs, R a b := by
  induction h with
  | nil => cases ha
  | cons hab hrest ih =>
      rcases List.mem_cons.mp ha with rfl | ha
      · exact ⟨_, List.mem_cons_self, hab⟩
      · obtain ⟨b, hb, hab⟩ := ih ha
        exact ⟨b, List.mem_cons_of_mem _ hb, hab⟩

variable {p : Placeholder}

theorem Gives.mem (h : Gives vocabulary body p) : p.keyword.toList ∈ Text.splitAll ':' body := by
  obtain ⟨front, back, hparts, -⟩ := h
  rw [hparts]
  simp

/-- A known name among the parts of a body is its keyword, or else stands left of it. -/
theorem Gives.keyword_or_shadowed (h : Gives vocabulary body p)
    (hknown : vocabulary.contains name = true) (hmem : name.toList ∈ Text.splitAll ':' body) :
    p.keyword = name ∨ Shadowed vocabulary name body := by
  obtain ⟨front, back, hparts, hspec, hback, -⟩ := h
  rw [hparts, List.mem_append, List.mem_cons] at hmem
  rcases hmem with hfront | hname | hbehind
  · rcases eq_or_ne p.keyword name with heq | hne
    · exact .inl heq
    · obtain ⟨before, between, rfl⟩ := List.append_of_mem hfront
      refine .inr ⟨before, between ++ p.keyword.toList :: back, p.keyword, ?_, by simp, ?_, hne⟩
      · rw [hparts]
        simp
      · simp [OrderedMap.contains, hspec]
  · exact .inl (String.toList_inj.mp hname.symm)
  · have hnone := hback name.toList hbehind
    rw [String.ofList_toList] at hnone
    simp [OrderedMap.contains, hnone] at hknown

end Rule

namespace Template

variable {family : Template} {rule name : String} {templated : Bool}

theorem mentions_iff : mentions rule name = true ↔
    ∃ body ∈ bracedBodies rule.toList, name.toList ∈ Text.splitAll ':' body := by
  simp [mentions]

theorem validateRule_eq_ok : family.validateRule rule templated = .ok () ↔
    ∀ name ∈ family.demandedKeywords templated, mentions rule name = true := by
  unfold validateRule
  split
  next hnone => simpa using hnone
  next missing hsome => simpa using hsome

theorem contains_of_demanded (h : name ∈ family.demandedKeywords templated) :
    family.keywords.contains name = true := by
  obtain ⟨entry, hentry, rfl⟩ := List.mem_map.mp h
  exact OrderedMap.contains_iff.mpr (List.mem_map_of_mem (List.mem_of_mem_filter hentry))

theorem placeholder?_eq_some {r : Route} : (∃ p, r.placeholder? name = some p) ↔
    ∃ p ∈ r.placeholders, p.keyword = name := by
  simp [Route.placeholder?, ← Option.isSome_iff_exists]

/-- A custom rule that compiles is accepted exactly if every keyword that the family demands
has a placeholder or stands in the affix of another one. -/
theorem validateRule_iff_of_compile {r : Route} (h : Route.compile (family.withRule rule) = .ok r) :
    family.validateRule rule templated = .ok () ↔
      ∀ name ∈ family.demandedKeywords templated,
        (∃ p, r.placeholder? name = some p) ∨
          ∃ body ∈ bracedBodies rule.toList, Shadowed family.keywords name body := by
  obtain ⟨-, hsegments, -⟩ := Route.compile_eq_ok h
  have hgives : List.Forall₂ (Gives family.keywords) (bracedBodies rule.toList) r.placeholders :=
    gives_of_segments hsegments
  rw [validateRule_eq_ok]
  apply forall₂_congr
  intro name hdemanded
  rw [mentions_iff, placeholder?_eq_some]
  constructor
  · rintro ⟨body, hbody, hmem⟩
    obtain ⟨p, hp, hbody'⟩ := exists_of_forall₂ hgives hbody
    rcases hbody'.keyword_or_shadowed (contains_of_demanded hdemanded) hmem with hname | hshadowed
    · exact .inl ⟨p, hp, hname⟩
    · exact .inr ⟨body, hbody, hshadowed⟩
  · rintro (⟨p, hp, rfl⟩ | ⟨body, hbody, hshadowed⟩)
    · obtain ⟨body, hbody, hbody'⟩ := exists_of_forall₂ hgives.flip hp
      exact ⟨body, hbody, Gives.mem hbody'⟩
    · exact ⟨body, hbody, hshadowed.mem⟩

/-! ## Rules for controllers inside modules -/

open Families in
/-- The rule of the family of modules mentions both of its keywords, and both have placeholders. -/
theorem validateRule_moduleFamily :
    ∃ r, Route.compile (moduleFamily.withRule "module/{module}{/:controller}") = .ok r ∧
      moduleFamily.validateRule "module/{module}{/:controller}" true = .ok () := by
  obtain ⟨regex, hcompile⟩ := compile_moduleFamily
  refine ⟨_, hcompile, (@validateRule_iff_of_compile moduleFamily _ true _ hcompile).mpr ?_⟩
  have hdemanded : moduleFamily.demandedKeywords true = ["module", "controller"] := by decide
  rw [hdemanded]
  refine List.forall_mem_cons.mpr ⟨.inl ⟨_, rfl⟩, List.forall_mem_cons.mpr ⟨.inl ⟨_, rfl⟩, nofun⟩⟩

open Families in
/-- A module's name in the affix of the controller is as good as a placeholder to the check, and
no placeholder to the compiler. -/
theorem validateRule_moduleInAffix :
    ∃ r, Route.compile (moduleFamily.withRule "m/{module:controller}") = .ok r ∧
      moduleFamily.validateRule "m/{module:controller}" true = .ok () ∧
      "module" ∈ moduleFamily.demandedKeywords true ∧ r.placeholder? "module" = none := by
  have hsegments : Rule.segments (moduleFamily.withRule "m/{module:controller}") =
      .ok [.literal "m/", .placeholder (controllerPlaceholder "module")] := by decide +kernel
  have hwithin : (controllerPlaceholder "module").spec.Within fragmentSize :=
    within_slug (Pattern.Read.isGroupName_of_lower (by decide) (by decide))
  obtain ⟨regex, hcompile⟩ := compile_of_within hsegments
    (List.forall_mem_cons.mpr ⟨hwithin, nofun⟩)
    (by decide) (by decide)
  exact ⟨_, hcompile, by decide +kernel, by decide, rfl⟩

end Template

end Waymark
