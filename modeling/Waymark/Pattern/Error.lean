/-! # Why a pattern is refused -/

namespace Waymark.Pattern

/-- The reasons for refusing the text of a pattern. -/
inductive Error where
  /-- A group is not closed. -/
  | unclosedGroup
  /-- A parenthesis closes no group. -/
  | unopenedGroup
  /-- A group looks ahead or behind. -/
  | lookAround
  /-- A group has a name that is no name. -/
  | badGroupName
  /-- Two groups have the same name. -/
  | duplicateGroupName (name : String)
  /-- A list of flags is malformed. -/
  | badFlags
  /-- A repetition has nothing to repeat. -/
  | nothingToRepeat
  /-- A counted repetition is malformed, or its bounds are in the wrong order. -/
  | badCount
  /-- A bracketed set is not closed. -/
  | unclosedSet
  /-- A range in a bracketed set is reversed or has a bound that is no character. -/
  | badRange
  /-- An escape stands for nothing. -/
  | badEscape
  /-- There is no property of that name. -/
  | unknownProperty
  /-- The pattern could match text that is not well formed. -/
  | notText
  /-- The pattern is nested too deeply. -/
  | tooDeep
  /-- The pattern is too large once its repetitions are written out. -/
  | tooLarge
deriving DecidableEq

end Waymark.Pattern
