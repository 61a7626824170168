import Waymark.Proofs.OrderedMap
import Waymark.Resolve

/-! # The match of a route

What a route captures and the parameters of its template say which controller is selected and what
is split off it. From these two the match follows: what is split off is written over the
parameters, and what is left of the controller is named, or the default in its place.
-/

namespace Waymark.Resolve

open Request (controllerName)

variable {settings : Settings} {r : Route} {captures : List (String × String)}
  {localeCode : Option String}

/-- The parameters that a route gives for some captures, before the names of modules are split
off. -/
def givenParams (r : Route) (captures : List (String × String)) : Params :=
  (boundParams captures).insertAll r.template.params.entries

/-- The controller that a route selects for some captures. -/
def selected? (r : Route) (captures : List (String × String)) : Option String :=
  selectedController r.template (boundParams captures)

/-- What is split off a controller, and what is left of it. -/
def splitOff (controller : Option String) : List (String × String) × Option String :=
  match controller.bind fun name => Request.splitModule? name.toList with
  | some (moduleName, inner) =>
      ([("module", String.ofList moduleName), ("fc", "module")], some (String.ofList inner))
  | none => ([], controller)

/-- What is split off is written over the parameters, whatever these are. -/
theorem splitModule_eq (params : Params) (controller : Option String) :
    splitModule params controller =
      (params.insertAll (splitOff controller).1, (splitOff controller).2) := by
  unfold splitModule splitOff
  cases controller.bind fun name => Request.splitModule? name.toList <;> rfl

/-- Nothing is split off a name in which no module is written. -/
theorem splitOff_of_plain {name : String} (h : Request.splitModule? name.toList = none) :
    splitOff (some name) = ([], some name) := by
  unfold splitOff
  rw [Option.bind_some, h]

theorem splitOff_of_module {name : String} {moduleName inner : List Char}
    (h : Request.splitModule? name.toList = some (moduleName, inner)) :
    splitOff (some name) =
      ([("module", String.ofList moduleName), ("fc", "module")], some (String.ofList inner)) := by
  unfold splitOff
  rw [Option.bind_some, h]

/-- The name of a controller, or the default where there is none, or it is empty or the index. -/
def chosen (settings : Settings) (moduleDispatch : Bool) : Option String → String
  | some name =>
      if name ≠ "" ∧ name ≠ Families.indexId then name
      else defaultController settings moduleDispatch
  | none => defaultController settings moduleDispatch

theorem routeMatch_eq {added : List (String × String)} {name? : Option String}
    (h : splitOff (selected? r captures) = (added, name?)) :
    routeMatch settings r captures localeCode =
      { routeId := r.routeId
        controller := controllerName
          (chosen settings (((givenParams r captures).insertAll added).get? "fc" == some "module")
            name?)
        params := (givenParams r captures).insertAll added
        moduleDispatch := ((givenParams r captures).insertAll added).get? "fc" == some "module"
        localeCode
        source := .route } := by
  have hsplit := splitModule_eq (givenParams r captures) (selected? r captures)
  rw [h] at hsplit
  unfold givenParams selected? at hsplit
  unfold routeMatch givenParams
  dsimp only
  rw [hsplit]
  cases name? <;> rfl

theorem controller_eq_chosen (settings : Settings) (r : Route)
    (captures : List (String × String)) (localeCode : Option String) :
    (routeMatch settings r captures localeCode).controller =
      controllerName (chosen settings (routeMatch settings r captures localeCode).moduleDispatch
        (splitOff (selected? r captures)).2) := by
  cases hsplit : splitOff (selected? r captures) with
  | mk added name? => rw [routeMatch_eq hsplit]

theorem get?_givenParams (r : Route) (captures : List (String × String)) (name : String) :
    (givenParams r captures).get? name =
      (r.template.params.get? name).or ((boundParams captures).get? name) :=
  OrderedMap.get?_insertAll_entries _ _ _

theorem moduleDispatch_eq (settings : Settings) (r : Route) (captures : List (String × String))
    (localeCode : Option String) :
    (routeMatch settings r captures localeCode).moduleDispatch =
      (((givenParams r captures).insertAll (splitOff (selected? r captures)).1).get? "fc" ==
        some "module") := by
  cases hsplit : splitOff (selected? r captures) with
  | mk added name? => rw [routeMatch_eq hsplit]

end Waymark.Resolve
