/-!
# Points

Positions, offsets and sizes on the canvas are pairs of doubles, in pixels. The vector
operations are written out so that every rounding step is fixed: nothing is reassociated.
-/

namespace Storyboard

/-- A point, an offset or a size, in pixels. -/
@[ext] structure Point where
  x : Float
  y : Float
  deriving DecidableEq, Repr

namespace Point

/-- The origin. -/
def zero : Point := ⟨0.0, 0.0⟩

instance : Inhabited Point := ⟨zero⟩

/-- The coordinatewise sum. -/
def add (p q : Point) : Point := ⟨p.x + q.x, p.y + q.y⟩

/-- The coordinatewise difference. -/
def sub (p q : Point) : Point := ⟨p.x - q.x, p.y - q.y⟩

/-- The coordinatewise product. -/
def mul (p q : Point) : Point := ⟨p.x * q.x, p.y * q.y⟩

/-- Multiplies both coordinates by a number. -/
def scale (p : Point) (k : Float) : Point := ⟨p.x * k, p.y * k⟩

/-- Divides both coordinates by a number. -/
def divide (p : Point) (k : Float) : Point := ⟨p.x / k, p.y / k⟩

instance : Add Point := ⟨add⟩
instance : Sub Point := ⟨sub⟩

@[simp] theorem add_x (p q : Point) : (p + q).x = p.x + q.x := rfl
@[simp] theorem add_y (p q : Point) : (p + q).y = p.y + q.y := rfl
@[simp] theorem sub_x (p q : Point) : (p - q).x = p.x - q.x := rfl
@[simp] theorem sub_y (p q : Point) : (p - q).y = p.y - q.y := rfl

/-- The Euclidean length. -/
def length (p : Point) : Float := Float.sqrt (p.x * p.x + p.y * p.y)

/-- The distance between two points. -/
def distance (p q : Point) : Float := (p - q).length

/-- The direction of a vector as one of length one; the zero vector if the reciprocal of the
length is not a positive finite number. -/
def direction (p : Point) : Point :=
  let r := 1.0 / p.length
  if r.isFinite && 0.0 < r then p.scale r else zero

/-- The point halfway between two points. -/
def midpoint (p q : Point) : Point := (p + q).divide 2.0

/-- Turns a vector about the origin by an angle in radians. -/
def rotate (p : Point) (radians : Float) : Point :=
  let c := Float.cos radians
  let s := Float.sin radians
  ⟨c * p.x - s * p.y, s * p.x + c * p.y⟩

/-- The point at an angle, in radians, on the circle of radius one about the origin. -/
def onUnitCircle (radians : Float) : Point := ⟨Float.cos radians, Float.sin radians⟩

end Point

end Storyboard
