import Storyboard.Scene.Hierarchy
import Storyboard.Script.Number
import Storyboard.Script.Reference
import Storyboard.Session.Fault

/-!
# Positions in arguments

A coordinate from minus one to one is a fraction of the canvas on its axis; any other is a
number of pixels. A position is either two coordinates or the name of an object, which may be
followed by two offsets under the same rule.
-/

namespace Storyboard

/-- A coordinate as a number of pixels. -/
def relative (v extent : Float) : Float := if -1.0 ≤ v && v ≤ 1.0 then v * extent else v

namespace Scene

/-- Two coordinates as a point of the canvas. -/
def expandPoint (s : Scene) (x y : Float) : Point :=
  ⟨relative x s.config.width, relative y s.config.height⟩

/-- The position of the object that a token names. -/
def expandObject (s : Scene) (token name : String) : Except Fault Point :=
  if s.contains name then
    match s.position? name with
    | some pos => .ok pos
    | none => .error (.noPosition name token)
  else .error (.noObject name token)

/-- The position that a name with or without offsets denotes. -/
def expandReference (s : Scene) (token : String) : Except Fault Point :=
  match OffsetReference.ofToken? token with
  | some r => (s.expandObject token r.name).map fun base => base + s.expandPoint r.dx r.dy
  | none => s.expandObject token token

/-- The position that one or two tokens denote. -/
def expandPosition (s : Scene) (first : String) (second : Option String) : Except Fault Point :=
  match Number.ofToken? first, second with
  | none, _ => s.expandReference first
  | some _, none => .error (.missingCoordinate first)
  | some x, some token =>
      match Number.ofToken? token with
      | some y => .ok (s.expandPoint x y)
      | none => .error (.badCoordinate token)

end Scene

end Storyboard
