/-!
# Failures of scene operations
-/

namespace Storyboard

/-- Why an operation on a scene is refused. -/
inductive SceneError where
  | unknownObject (name : String)
  | attachedMove (name : String)
  | attachedAnimate (name : String)
  | attachCycle (child parent : String)
  | nothingToFit
  deriving DecidableEq, Repr

namespace SceneError

/-- The wording of a refusal. -/
def message : SceneError → String
  | unknownObject name => "object '" ++ name ++ "' not found"
  | attachedMove name => "cannot move attached object '" ++ name ++ "'"
  | attachedAnimate name => "cannot animate attached object '" ++ name ++ "'"
  | attachCycle child parent =>
      "cannot attach '" ++ child ++ "' to '" ++ parent ++ "': it would create a cycle"
  | nothingToFit => "no objects to fit"

/-- The object that a refusal is about. -/
def object? : SceneError → Option String
  | unknownObject name | attachedMove name | attachedAnimate name => some name
  | attachCycle child _ => some child
  | nothingToFit => none

end SceneError

end Storyboard
