import Storyboard.Color.Rgba
import Storyboard.Scene.Shape

/-!
# Objects

An object of a scene: its identity, its appearance, its motion and its place in the hierarchy.
An object with a parent is kept at its offset from the parent; an object with a motion steps
towards its goal at every tick.
-/

namespace Storyboard

/-- A goal-directed motion in progress. -/
structure Motion where
  goal : Point
  /-- Pixels per tick. -/
  velocity : Float
  deriving DecidableEq, Repr

/-- An object of a scene. -/
structure Entity where
  id : EntityId
  name : String
  pos : Point
  color : ColorSpec
  frameColor : Option ColorSpec
  alpha : Float
  priority : Float
  scale : Float
  visible : Bool
  fixed : Bool
  fadeOut : Bool
  motion : Option Motion
  parent : Option EntityId
  /-- The distance from the parent, while there is one. -/
  offset : Point
  children : List EntityId
  shape : Shape
  deriving DecidableEq, Repr

namespace Entity

/-- A fresh object: white, opaque, visible, at rest and free. -/
def new (id : EntityId) (name : String) (pos : Point) (shape : Shape) : Entity :=
  { id, name, pos, shape
    color := .named Defaults.color
    frameColor := none
    alpha := 1.0
    priority := shape.defaultPriority
    scale := 1.0
    visible := true
    fixed := false
    fadeOut := false
    motion := none
    parent := none
    offset := Point.zero
    children := [] }

/-- The kind of the object's shape. -/
def kind (e : Entity) : ShapeKind := e.shape.kind

/-- Whether the object is a link. -/
def isLink (e : Entity) : Bool := e.shape.isLink

/-- Whether the object is moving towards a goal. -/
def isAnimating (e : Entity) : Bool := e.motion.isSome

/-- The vertices of a polygon at its position; other kinds have none. -/
def vertices (e : Entity) : List Point :=
  match e.shape with
  | .polygon sides width rotation => Shape.polygonVertices sides width rotation e.pos
  | _ => []

/-- The name of an object for which the script gives none: its kind and identifier. -/
def autoName (kind : ShapeKind) (id : EntityId) : String := "_" ++ kind.name ++ toString id

end Entity

end Storyboard
