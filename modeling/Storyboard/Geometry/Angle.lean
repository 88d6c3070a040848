import Storyboard.Geometry.Point

/-!
# Angles

Angles are kept in degrees and turned into radians only for trigonometry. Both conversions
multiply by a constant that is rounded once.
-/

namespace Storyboard

/-- The circle constant. -/
def pi : Float := 3.141592653589793

/-- A full turn in radians. -/
def fullTurn : Float := 6.283185307179586

/-- A quarter turn in radians. -/
def quarterTurn : Float := 1.5707963267948966

/-- An angle in degrees. -/
structure Angle where
  degrees : Float
  deriving DecidableEq, Repr

namespace Angle

/-- No turn. -/
def zero : Angle := ⟨0.0⟩

instance : Inhabited Angle := ⟨zero⟩

/-- The sum of two angles. -/
def add (a b : Angle) : Angle := ⟨a.degrees + b.degrees⟩

instance : Add Angle := ⟨add⟩

/-- Whether the angle turns anything: it is no kind of zero. -/
def isZero (a : Angle) : Bool := a.degrees == 0.0

/-- An angle given in radians. -/
def ofRadians (r : Float) : Angle := ⟨r * (180.0 / pi)⟩

/-- The angle in radians. -/
def radians (a : Angle) : Float := a.degrees * (pi / 180.0)

/-- The heading of the segment between two points. -/
def ofSegment (start finish : Point) : Angle :=
  let d := finish - start
  ofRadians (Float.atan2 d.y d.x)

end Angle

end Storyboard
