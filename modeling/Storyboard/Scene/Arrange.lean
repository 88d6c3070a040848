import Storyboard.Geometry.Bounds
import Storyboard.Scene.Hierarchy

/-!
# Arranging groups of objects

Turning an object about a point, and fitting a group of objects into a rectangle. Fitting maps
the bounding box of the group onto the rectangle; an axis without extent goes to the middle.
The objects are moved one after another, so a refusal leaves those before it moved.
-/

namespace Storyboard.Scene

/-- Turns the position of an object about a centre. -/
def rotateAround (s : Scene) (name : String) (angle : Angle) (center : Point) :
    Except SceneError Scene :=
  match s.position? name with
  | none => .error (.unknownObject name)
  | some pos => s.moveTo name (center + (pos - center).rotate angle.radians)

/-- The identifiers and positions of a list of names; objects without position are left out. -/
def placed (s : Scene) : List String → Except SceneError (List (EntityId × Point))
  | [] => .ok []
  | name :: rest => do
      let id ← s.idOf name
      let others ← s.placed rest
      match s.positionOf? id with
      | some pos => .ok ((id, pos) :: others)
      | none => .ok others

/-- Where a coordinate lies between the ends of an extent, from zero to one. -/
def fraction (v least extent : Float) : Float :=
  if extent == 0.0 then 0.5 else (v - least) / extent

/-- Maps the bounding box of the named objects onto the rectangle with the given corners. -/
def fitWithin (s : Scene) (start finish : Point) (names : List String) :
    Scene × Option SceneError :=
  match s.placed names with
  | .error e => (s, some e)
  | .ok spots =>
      let bounds := Bounds.ofPoints (spots.map Prod.snd)
      if bounds.isEmpty then (s, some .nothingToFit)
      else
        let span := bounds.size
        let image (pos : Point) : Point :=
          start + (finish - start).mul
            ⟨fraction pos.x bounds.lower.x span.x, fraction pos.y bounds.lower.y span.y⟩
        s.forEach (fun s (id, pos) => s.moveId id (image pos)) spots

end Storyboard.Scene
