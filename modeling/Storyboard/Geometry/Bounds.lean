import Storyboard.Geometry.Point

/-!
# Bounding boxes

The smallest box with sides along the axes that holds a list of points. Before any point is
added it is inside out, which is how an empty box is recognised. A coordinate that is not a
number leaves the box as it is.
-/

namespace Storyboard

/-- A box with sides along the axes. -/
structure Bounds where
  lower : Point
  upper : Point
  deriving DecidableEq, Repr

namespace Bounds

/-- The largest finite double. -/
def largest : Float := Float.ofBits 0x7fefffffffffffff

/-- The lesser of two numbers; a value that is not a number gives way. -/
def lesser (a b : Float) : Float := if a.isNaN then b else if b < a then b else a

/-- The greater of two numbers; a value that is not a number gives way. -/
def greater (a b : Float) : Float := if a.isNaN then b else if a < b then b else a

/-- The box around nothing. -/
def empty : Bounds := ⟨⟨largest, largest⟩, ⟨-largest, -largest⟩⟩

/-- Whether no point has been added. -/
def isEmpty (b : Bounds) : Bool := b.upper.x < b.lower.x || b.upper.y < b.lower.y

/-- Grows the box to hold a point. -/
def insert (b : Bounds) (p : Point) : Bounds :=
  { lower := ⟨lesser b.lower.x p.x, lesser b.lower.y p.y⟩
    upper := ⟨greater b.upper.x p.x, greater b.upper.y p.y⟩ }

/-- The box around a list of points. -/
def ofPoints (ps : List Point) : Bounds := ps.foldl insert empty

/-- Width and height. -/
def size (b : Bounds) : Point := b.upper - b.lower

end Bounds

end Storyboard
