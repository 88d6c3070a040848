import Storyboard.Scene.Hierarchy

/-!
# Render order and placements

A frame shows the visible objects by ascending priority; of equal priorities the object
created first comes first. Priorities are compared in the total order of doubles, in which
negative zero comes before zero. Where an object is drawn follows from its shape; a link with
a missing end is not drawn at all.
-/

namespace Storyboard

/-- Where an object is drawn. -/
inductive Placement where
  /-- Boxes, ellipses, bitmaps and texts: an anchor. -/
  | at (p : Point)
  /-- Lines, wires and links. -/
  | segment (start finish : Point)
  | spline (start control finish : Point)
  | polygon (vertices : List Point)
  deriving DecidableEq, Repr

/-- The bit that marks negative doubles, as a number. -/
def signBit : Nat := 0x8000000000000000

/-- A key that orders doubles totally: by sign, then by magnitude. -/
def orderKey (x : Float) : Int :=
  let bits := x.toBits.toNat
  if bits < signBit then bits else (signBit : Int) - bits - 1

namespace Scene

/-- The visible objects in the order in which they are drawn. -/
def renderOrder (s : Scene) : List EntityId :=
  ((s.objects.filter Entity.visible).mergeSort fun a b =>
    decide (orderKey a.priority ≤ orderKey b.priority)).map Entity.id

/-- Where an object is drawn, unless it is a link with a missing end. -/
def placement? (s : Scene) (e : Entity) : Option Placement :=
  match e.shape with
  | .line finish _ | .wire finish _ => some (.segment e.pos finish)
  | .spline control finish _ => some (.spline e.pos control finish)
  | .link source target _ => (s.linkEnds? source target).map fun (a, b) => .segment a b
  | .polygon sides width rotation =>
      some (.polygon (Shape.polygonVertices sides width rotation e.pos))
  | .bitmap .. | .box .. | .ellipse .. | .text .. => some (.at e.pos)

/-- The objects of a frame with their placements. -/
def placements (s : Scene) (order : List EntityId) : List (Entity × Placement) :=
  order.filterMap fun id => do
    let e ← s.entity? id
    let p ← s.placement? e
    some (e, p)

end Scene

end Storyboard
