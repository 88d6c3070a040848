import Storyboard.Layout.Graph
import Storyboard.Scene.Arrange

/-!
# Automatic placement

A spring layout hands the free objects of a list, links excepted, to a layout engine, puts
them where the engine says, turns them about the middle of the canvas, and fits them into a
rectangle. If the engine fails or there is nothing to lay out, the scene stays as it is; a
step that is refused later keeps the steps before it.
-/

namespace Storyboard.Scene

/-- Whether a name denotes an object that can be laid out. -/
def isFreeNode (s : Scene) (name : String) : Bool :=
  (s.get? name).any fun e => e.parent.isNone && !e.isLink

/-- The names that can be laid out, each where it is mentioned first. -/
def layoutNodes (s : Scene) (names : List String) : List String :=
  (names.filter s.isFreeNode).foldl (fun seen n => if seen.contains n then seen else seen ++ [n]) []

/-- Puts the nodes where the engine says. -/
def place (s : Scene) (positions : Positions) (nodes : List String) : Scene × Option SceneError :=
  s.forEach (fun s name => match positions.get? name with
    | some pos => s.moveTo name pos
    | none => .ok s) nodes

/-- Turns the nodes about the middle of the canvas. -/
def turn (s : Scene) (rotation : Angle) (nodes : List String) : Scene × Option SceneError :=
  if rotation.isZero then (s, none)
  else
    let center := s.size.divide 2.0
    s.forEach (fun s name => s.rotateAround name rotation center) nodes

/-- Continues after a step that was not refused. -/
def andThen (result : Scene × Option SceneError) (next : Scene → Scene × Option SceneError) :
    Scene × Option SceneError :=
  match result with
  | (s, none) => next s
  | (s, some e) => (s, some e)

/-- Lays out the free objects among the names within the rectangle with the given corners. -/
def spring (s : Scene) (start finish : Point) (names : List String) (rotation : Angle)
    (engine : LayoutEngine) : Scene × Option LayoutError :=
  match s.layoutNodes names with
  | [] => (s, none)
  | nodes =>
      match engine (s.layoutGraph nodes) with
      | .error e => (s, some e)
      | .ok positions =>
          let result := andThen (andThen (s.place positions nodes) (·.turn rotation nodes))
            (·.fitWithin start finish nodes)
          (result.1, result.2.map .scene)

end Storyboard.Scene
