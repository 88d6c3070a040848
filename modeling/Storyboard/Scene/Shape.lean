import Storyboard.Geometry.Angle
import Storyboard.Scene.Defaults
import Storyboard.Script.ShapeKind

/-!
# Shapes

The part of an object that depends on its kind. A shape says how wide and high it is shown in
dumps, what a `resize` changes, and when it is drawn if the script sets no priority. Links
have no geometry of their own: they hold the identifiers of the two objects they join.
-/

namespace Storyboard

/-- The identifier of an object, drawn from a counter of its scene. -/
abbrev EntityId := UInt64

/-- Horizontal alignment of a text. -/
inductive Align where
  | left
  | center
  | right
  deriving DecidableEq, Repr

/-- What an object looks like. -/
inductive Shape where
  /-- An image file; without a size the image keeps its own. -/
  | bitmap (file : String) (size : Option Point)
  | box (size : Point)
  /-- An ellipse by its full width and height. -/
  | ellipse (size : Point)
  /-- A straight segment from the object's position. -/
  | line (finish : Point) (stroke : Float)
  /-- A connector between two objects. -/
  | link (source target : EntityId) (stroke : Float)
  /-- A regular polygon by the diameter of the circle around it. -/
  | polygon (sides : Nat) (width : Float) (rotation : Angle)
  /-- A quadratic curve from the object's position. -/
  | spline (control finish : Point) (stroke : Float)
  | text (content : String) (size : Float) (align : Align)
  /-- A right-angled connector from the object's position. -/
  | wire (finish : Point) (stroke : Float)
  deriving DecidableEq, Repr

namespace Shape

/-- The kind of a shape. -/
def kind : Shape → ShapeKind
  | bitmap .. => .bitmap
  | box .. => .box
  | ellipse .. => .ellipse
  | line .. => .line
  | link .. => .link
  | polygon .. => .polygon
  | spline .. => .spline
  | text .. => .text
  | wire .. => .wire

/-- Whether the shape is a link. -/
def isLink : Shape → Bool
  | link .. => true
  | _ => false

/-- Width and height as dumps show them, where the kind has them. -/
def extent : Shape → Option Float × Option Float
  | bitmap _ size => (size.map Point.x, size.map Point.y)
  | box size => (some size.x, some size.y)
  | ellipse size => (some size.x, some size.y)
  | line _ stroke => (some stroke, none)
  | link _ _ stroke => (some stroke, none)
  | polygon _ width _ => (some width, some width)
  | spline _ _ stroke => (some stroke, none)
  | text _ size _ => (none, some size)
  | wire _ stroke => (some stroke, none)

/-- Gives the shape a new size: strokes and polygons take the width, texts the height. -/
def resize (size : Point) : Shape → Shape
  | bitmap file _ => bitmap file (some size)
  | box _ => box size
  | ellipse _ => ellipse size
  | line finish _ => line finish size.x
  | link source target _ => link source target size.x
  | polygon sides _ rotation => polygon sides size.x rotation
  | spline control finish _ => spline control finish size.x
  | text content _ align => text content size.y align
  | wire finish _ => wire finish size.x

/-- The priority of objects for which the script sets none. -/
def defaultPriority : Shape → Float
  | link .. => Defaults.linkPriority
  | line .. | spline .. | wire .. => Defaults.linePriority
  | text .. => Defaults.textPriority
  | _ => 0.0

@[simp] theorem kind_resize (size : Point) (s : Shape) : (s.resize size).kind = s.kind := by
  cases s <;> rfl

@[simp] theorem isLink_resize (size : Point) (s : Shape) : (s.resize size).isLink = s.isLink := by
  cases s <;> rfl

/-- The vertices of a regular polygon about a centre, the first one straight up before the
rotation. -/
def polygonVertices (sides : Nat) (width : Float) (rotation : Angle) (center : Point) :
    List Point :=
  let radius := width / 2.0
  let step := fullTurn / (max sides 1).toFloat
  let start := rotation.radians - quarterTurn
  (List.range sides).map fun i =>
    center + (Point.onUnitCircle (start + step * i.toFloat)).scale radius

end Shape

end Storyboard
