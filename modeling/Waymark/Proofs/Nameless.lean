import Waymark.Proofs.Carries
import Waymark.Proofs.Explicit

/-! # Matches whose controller has no name

Each stage of a resolution sees to it that the controller it names is not empty: a query has to
name one with a character at least, and where a route selects an empty name the default takes its
place. Hyphens are taken out of the name afterwards. So nothing is left of a name that is made of
hyphens only, and that is the one way to a match whose controller has no name.
-/

namespace Waymark

namespace Request

/-- Nothing but hyphens. -/
def Hyphens (name : List Char) : Prop := ∀ c ∈ name, c = '-'

instance (name : List Char) : Decidable (Hyphens name) :=
  List.decidableBAll (· = '-') name

variable {before moduleName inner : List Char}

theorem AreModuleNames.not_hyphens (h : AreModuleNames moduleName inner) : ¬ Hyphens inner := by
  intro hall
  obtain ⟨c, rest, rfl⟩ := List.exists_cons_of_ne_nil h.inner_nonempty
  have hc : c = '-' := hall c List.mem_cons_self
  exact h.hyphen_not_mem (hc ▸ List.mem_cons_self)

theorem InModule.not_hyphens {name : List Char} (h : InModule name before moduleName inner) :
    ¬ Hyphens name := by
  obtain ⟨⟨marker, -, rfl⟩, hnames⟩ := h
  exact fun hall => hnames.not_hyphens fun c hc => hall c (by simp [hc])

end Request

theorem EntityKind.not_hyphens_controller {kind : EntityKind} {controller : String}
    (h : kind.controller? = some controller) : ¬ Request.Hyphens controller.toList := by
  cases kind with
  | genericPage => cases h
  | _ =>
      cases h
      decide

namespace Resolve

open Request (FirstValue Hyphens Names controllerName controllerName_eq_empty_iff)

/-- The names that a resolution falls back on, and those that the entity resolver has for pages,
are made of more than hyphens. -/
structure AreNamed (entities : EntityResolver) (settings : Settings) : Prop where
  default : ¬ Hyphens settings.defaultController.toList
  moduleDefault : ¬ Hyphens settings.moduleDefaultController.toList
  page : ∀ id scope name, entities.pageController id scope = .ok (some name) →
    ¬ Hyphens name.toList

/-- The ways to a match whose controller has no name. -/
inductive Nameless (table : Table) (context : RequestContext) : MatchSource → Prop
  /-- The query names a controller of hyphens. -/
  | explicit {before query value name : List Char} {params : Params}
      (hpath : context.path.toList = before ++ '?' :: query) (hbefore : '?' ∉ before)
      (hvalue : FirstValue query "controller".toList value) (hnames : Names value name params)
      (hhyphens : Hyphens name) : Nameless table context .explicit
  /-- The first route that takes the path selects a controller of hyphens. -/
  | route {handle : Handle} {captures : List (String × String)} {name : String}
      (hfirst : handle.IsFirst context.normalized.path (table.routes context.scope))
      (hcaptures : handle.route.captures context.normalized.path = some captures)
      (hselected : selected? handle.route captures = some name) (hnonempty : name ≠ "")
      (hhyphens : Hyphens name.toList) : Nameless table context .route

variable {table : Table} {entities : EntityResolver} {settings : Settings}
  {context : RequestContext} {found : RouteMatch}

/-! ## The routes -/

/-- A name of hyphens is what is left of a controller exactly if it is the controller. -/
theorem splitOff_eq_hyphens {controller : Option String} {name : String}
    (h : Hyphens name.toList) : (splitOff controller).2 = some name ↔ controller = some name := by
  unfold splitOff
  split
  next moduleName inner hsplit =>
    obtain ⟨whole, rfl, hwhole⟩ := Option.bind_eq_some_iff.mp hsplit
    obtain ⟨before, hin, -⟩ := Request.splitModule?_eq_some_iff.mp hwhole
    constructor
    · rintro ⟨⟩
      rw [String.toList_ofList] at h
      exact absurd h hin.names.not_hyphens
    · rintro ⟨⟩
      exact absurd h hin.not_hyphens
  next => rfl

/-- The default takes the place of an empty name, but not of hyphens. -/
theorem hyphens_chosen_iff {moduleDispatch : Bool} {name? : Option String}
    (hdefault : ¬ Hyphens (defaultController settings moduleDispatch).toList) :
    Hyphens (chosen settings moduleDispatch name?).toList ↔
      ∃ name, name? = some name ∧ name ≠ "" ∧ Hyphens name.toList := by
  have hindex : ¬ Hyphens Families.indexId.toList := by decide
  cases name? with
  | none => simpa [chosen] using hdefault
  | some name =>
      unfold chosen
      dsimp only
      split
      next hname =>
        constructor
        · intro hhyphens
          exact ⟨name, rfl, hname.1, hhyphens⟩
        · rintro ⟨_, ⟨⟩, -, hhyphens⟩
          exact hhyphens
      next hname =>
        constructor
        · intro hhyphens
          exact absurd hhyphens hdefault
        · rintro ⟨_, ⟨⟩, hnonempty, hhyphens⟩
          refine absurd ⟨hnonempty, ?_⟩ hname
          rintro rfl
          exact hindex hhyphens

theorem AreNamed.not_hyphens_default (h : AreNamed entities settings) (moduleDispatch : Bool) :
    ¬ Hyphens (defaultController settings moduleDispatch).toList := by
  cases moduleDispatch with
  | false => exact h.default
  | true => exact h.moduleDefault

theorem controller_routeMatch_eq_empty_iff {r : Route} {captures : List (String × String)}
    {localeCode : Option String} (hnamed : AreNamed entities settings) :
    (routeMatch settings r captures localeCode).controller = "" ↔
      ∃ name, selected? r captures = some name ∧ name ≠ "" ∧ Hyphens name.toList := by
  rw [controller_eq_chosen, controllerName_eq_empty_iff]
  refine (hyphens_chosen_iff (hnamed.not_hyphens_default _)).trans (exists_congr fun name => ?_)
  constructor
  · rintro ⟨hleft, hnonempty, hhyphens⟩
    exact ⟨(splitOff_eq_hyphens hhyphens).mp hleft, hnonempty, hhyphens⟩
  · rintro ⟨hselected, hnonempty, hhyphens⟩
    exact ⟨(splitOff_eq_hyphens hhyphens).mpr hselected, hnonempty, hhyphens⟩

theorem nameless_of_scan (hnamed : AreNamed entities settings)
    (h : scan settings context.normalized (table.routes context.scope) = some found) :
    found.controller = "" ↔ Nameless table context found.source := by
  rw [source_of_scan h]
  constructor
  · intro hempty
    obtain ⟨handle, hfirst, htry⟩ := scan_eq_some_iff.mp h
    obtain ⟨-, captures, hcaptures, rfl⟩ := tryRoute_eq_some.mp htry
    obtain ⟨name, hselected, hnonempty, hhyphens⟩ :=
      (controller_routeMatch_eq_empty_iff hnamed).mp hempty
    exact .route hfirst hcaptures hselected hnonempty hhyphens
  · rintro (_ | ⟨hfirst, hcaptures, hselected, hnonempty, hhyphens⟩)
    obtain rfl := Option.some.inj ((scan_of_isFirst hfirst hcaptures).symm.trans h)
    exact (controller_routeMatch_eq_empty_iff hnamed).mpr ⟨_, hselected, hnonempty, hhyphens⟩

/-! ## The other stages -/

theorem controller_namedMatch_eq_empty_iff {query name : List Char} {params : Params} :
    (namedMatch query name params).controller = "" ↔ Hyphens name := by
  unfold namedMatch
  rw [String.ofList_eq_empty_iff, List.filter_eq_nil_iff]
  simp [Hyphens]

theorem nameless_of_explicitMatch? (h : explicitMatch? context.path = some found) :
    found.controller = "" ↔ Nameless table context found.source := by
  rw [source_of_explicitMatch? h]
  constructor
  · intro hempty
    obtain ⟨before, query, value, name, params, hpath, hbefore, hvalue, hnames, rfl⟩ :=
      explicitMatch?_eq_some.mp h
    exact .explicit hpath hbefore hvalue hnames (controller_namedMatch_eq_empty_iff.mp hempty)
  · rintro (⟨hpath, hbefore, hvalue, hnames, hhyphens⟩ | _)
    have hother := explicitMatch?_eq_some.mpr
      ⟨_, _, _, _, _, hpath, hbefore, hvalue, hnames, rfl⟩
    obtain rfl := Option.some.inj (hother.symm.trans h)
    exact controller_namedMatch_eq_empty_iff.mpr hhyphens

theorem controller_ne_empty_of_lookupEntity {n : Request.NormalizedPath} {scope : Scope}
    (hnamed : AreNamed entities settings)
    (h : (lookupEntity entities n scope).outcome = .ok (some found)) : found.controller ≠ "" := by
  obtain ⟨hit, routeId, controller, rfl, hkind | hpage⟩ := entityMatch_of_lookupEntity h
  · exact mt controllerName_eq_empty_iff.mp (EntityKind.not_hyphens_controller hkind)
  · exact mt controllerName_eq_empty_iff.mp (hnamed.page _ _ _ hpage)

/-! ## The resolution -/

/-- Where the names to fall back on and those of pages are made of more than hyphens, the controller
of a match has no name exactly if the query names hyphens, or the route that wins selects them. The
index and the entities always have a controller with a name. -/
theorem resolve_nameless_iff (hnamed : AreNamed entities settings)
    (h : (resolve table entities settings context).outcome = .ok (.matched found)) :
    found.controller = "" ↔ Nameless table context found.source := by
  rcases resolve_eq_matched h with hexplicit | ⟨localeCode, rfl⟩ | hentity | hscan
  · exact nameless_of_explicitMatch? hexplicit
  · constructor
    · intro hempty
      exact absurd (controllerName_eq_empty_iff.mp hempty) (hnamed.not_hyphens_default false)
    · nofun
  · rw [source_of_lookupEntity hentity]
    constructor
    · intro hempty
      exact absurd hempty (controller_ne_empty_of_lookupEntity hnamed hentity)
    · nofun
  · exact nameless_of_scan hnamed hscan

/-! ## Names of hyphens -/

theorem areNamed_initial : AreNamed (.ofRecords []) .initial := ⟨by decide, by decide, nofun⟩

/-- A request whose query names the best sales. -/
def bestSalesRequest : RequestContext := ⟨"/?controller=best-sales", ⟨1, 1⟩, true, false, "/"⟩

theorem resolve_nameless_iff_bestSales : ∃ found, AreNamed (.ofRecords []) .initial ∧
    (resolve .empty (.ofRecords []) .initial bestSalesRequest).outcome = .ok (.matched found) ∧
      found.controller = "bestsales" ∧ ¬ Nameless .empty bestSalesRequest found.source := by
  have hexplicit : explicitMatch? bestSalesRequest.path =
      some ⟨"best-sales", "bestsales", .empty, false, none, .explicit⟩ := by
    decide +kernel
  have hresolve := @resolve_of_explicitMatch? .empty (.ofRecords []) .initial _ bestSalesRequest
    hexplicit
  exact ⟨_, areNamed_initial, hresolve, rfl,
    mt (resolve_nameless_iff areNamed_initial hresolve).mpr (by decide)⟩

/-- A request whose query names a hyphen. -/
def hyphenRequest : RequestContext := ⟨"/?controller=-", ⟨1, 1⟩, true, false, "/"⟩

/-- A request for the sale. -/
def saleRequest : RequestContext := ⟨"/sale", ⟨1, 1⟩, true, false, "/"⟩

theorem normalized_saleRequest : saleRequest.normalized = ⟨"/sale", none, false⟩ := by
  decide +kernel

theorem reachesRoutes_saleRequest : ReachesRoutes (.ofRecords []) saleRequest := by
  refine ⟨by decide +kernel, rfl, ?_, ?_, ?_, ?_⟩
  all_goals rw [normalized_saleRequest]
  · decide
  · decide
  · rfl

/-- The defaults have names, and still the query may name a hyphen, and so may the target of a
route. -/
theorem resolve_nameless : AreNamed (.ofRecords []) .initial ∧
    (∃ found, (resolve .empty (.ofRecords []) .initial hyphenRequest).outcome =
      .ok (.matched found) ∧ found.source = .explicit ∧ found.controller = "") ∧
    ∃ (r : Route) (found : RouteMatch), r.template = Snapshot.sale (some "-") ∧
      (Snapshot.ofRoute r).table.Built ∧
      (resolve (Snapshot.ofRoute r).table (.ofRecords []) .initial saleRequest).outcome =
        .ok (.matched found) ∧ found.source = .route ∧ found.controller = "" := by
  refine ⟨areNamed_initial, ?_, ?_⟩
  · have hexplicit : explicitMatch? hyphenRequest.path =
        some ⟨"-", "", .empty, false, none, .explicit⟩ := by
      decide +kernel
    exact ⟨_, resolve_of_explicitMatch? hexplicit, rfl, rfl⟩
  · obtain ⟨regex, hcompile, hcaptures⟩ := Snapshot.compile_sale (some "-")
    let r : Route := ⟨Snapshot.sale (some "-"), regex, [.literal "sale"]⟩
    have haccepts : r.captures saleRequest.normalized.path = some [] := by
      rw [normalized_saleRequest]
      exact hcaptures
    have hempty := (@controller_routeMatch_eq_empty_iff _ .initial r [] none areNamed_initial).mpr
      ⟨"-", rfl, by decide, by decide⟩
    exact ⟨r, _, rfl, @Snapshot.built_ofRoute r hcompile,
      resolve_ofRoute reachesRoutes_saleRequest rfl rfl haccepts, rfl, hempty⟩

end Resolve

end Waymark
