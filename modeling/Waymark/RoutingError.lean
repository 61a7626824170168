import Waymark.Rule.Error

/-! # What can go wrong when routing

That no route matches is not among the errors; an outage of a collaborator is, so that it is
never taken for an empty table.
-/

namespace Waymark

/-- An outage that a collaborator reports. -/
structure CollaboratorError where
  collaborator : String
  reason : String
deriving DecidableEq

namespace CollaboratorError

/-- The message of an outage. -/
def message (e : CollaboratorError) : String := e.collaborator ++ " unavailable: " ++ e.reason

end CollaboratorError

/-- Why a request is not resolved or a URL not built. -/
inductive RoutingError where
  | compile (cause : CompileError)
  | validation (cause : ValidationError)
  /-- A URL lacks the value of a required keyword. -/
  | missingParameter (routeId keyword : String)
  /-- The entity resolver has no URL for an entity. -/
  | unknownEntity (entity id : String)
  | collaborator (cause : CollaboratorError)
deriving DecidableEq

namespace RoutingError

/-- The message of an error. -/
def message : RoutingError → String
  | compile cause => cause.message
  | validation cause => cause.message
  | missingParameter routeId keyword =>
      "missing required parameter " ++ quoted keyword ++ " for route " ++ quoted routeId
  | unknownEntity entity id => "no canonical url for " ++ entity ++ " #" ++ id
  | collaborator cause => cause.message

end RoutingError

end Waymark
