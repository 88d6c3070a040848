import Storyboard.Decimal.Shortest
import Storyboard.Scene.Basic
import Storyboard.Text.Quoted

/-!
# Scene dumps

A dump has one line for each object, in order of creation: kind, name, extent, position and
colour, then what its shape adds, then every setting that differs from its default. Numbers
are rounded to three decimals, so that a dump does not show the noise of arithmetic.
-/

namespace Storyboard.Scene

/-- A number rounded to three decimals. -/
def dumpNumber (v : Float) : String :=
  let rounded := (v * 1000.0).round / 1000.0
  if rounded == 0.0 then "0" else Decimal.shortest rounded

/-- An extent, or a dash where there is none. -/
def dumpExtent : Option Float → String
  | some v => dumpNumber v
  | none => "-"

/-- A point in parentheses. -/
def dumpPoint (p : Point) : String := "(" ++ dumpNumber p.x ++ ", " ++ dumpNumber p.y ++ ")"

/-- The name of an object, or a question mark if it is gone. -/
def nameOrUnknown (s : Scene) (id : EntityId) : String := ((s.entity? id).map Entity.name).getD "?"

/-- What the shape adds to a line. -/
def dumpShape (s : Scene) : Shape → String
  | .line finish _ | .wire finish _ => " to " ++ dumpPoint finish
  | .spline control finish _ => " via " ++ dumpPoint control ++ " to " ++ dumpPoint finish
  | .link source target _ => " " ++ s.nameOrUnknown source ++ " -- " ++ s.nameOrUnknown target
  | .text content _ _ => " " ++ Text.quoted content
  | .polygon _ _ rotation =>
      if rotation.isZero then "" else " rot " ++ dumpNumber rotation.degrees
  | .bitmap .. | .box .. | .ellipse .. => ""

/-- A text if a condition holds. -/
def dumpIf (condition : Bool) (text : String) : String := if condition then text else ""

/-- The line of an object. -/
def dumpEntity (s : Scene) (e : Entity) : String :=
  let (width, height) := e.shape.extent
  let parent := (e.parent.bind s.entity?).map Entity.name
  e.kind.name ++ " [" ++ e.name ++ "] " ++ dumpExtent width ++ " x " ++ dumpExtent height
    ++ " @ " ++ dumpPoint e.pos ++ " " ++ e.color.toText
    ++ s.dumpShape e.shape
    ++ (match parent with | some name => " on " ++ name | none => "")
    ++ dumpIf (e.alpha < 1.0) (" alpha " ++ dumpNumber e.alpha)
    ++ dumpIf (e.priority != e.shape.defaultPriority) (" prio " ++ dumpNumber e.priority)
    ++ dumpIf (!e.visible) " hidden"
    ++ dumpIf e.fixed " fixed"
    ++ dumpIf e.fadeOut " fading"
    ++ "\n"

/-- The lines of all objects. -/
def dump (s : Scene) : String := String.join (s.objects.map s.dumpEntity)

end Storyboard.Scene
