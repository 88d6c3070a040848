import Storyboard.Geometry.Angle
import Storyboard.Scene.Basic

/-!
# Layout graphs and engines

For an automatic layout a scene is reduced to an undirected graph of names. An engine answers
a graph with positions by name, or fails. The circular engine needs no tool: it spaces the
nodes evenly on the unit circle, the first one at the top.
-/

namespace Storyboard

/-- An undirected graph of object names. -/
structure LayoutGraph where
  nodes : List String
  edges : List (String × String)
  deriving DecidableEq, Repr

/-- Why a layout fails. -/
inductive LayoutError where
  /-- The tool could not be started. -/
  | cannotRun (tool reason : String)
  /-- The tool ended with a failure. -/
  | failed (tool status output : String)
  | notUtf8
  | missingNode (name : String)
  | emptyCommand
  | scene (e : SceneError)
  deriving DecidableEq, Repr

/-- The wording of a layout failure. -/
def LayoutError.message : LayoutError → String
  | cannotRun tool reason => "cannot run layout tool '" ++ tool ++ "': " ++ reason
  | failed tool status output =>
      "layout tool '" ++ tool ++ "' exited with " ++ status ++ ": " ++ output
  | notUtf8 => "layout tool output is not UTF-8"
  | missingNode name => "layout tool returned no position for '" ++ name ++ "'"
  | emptyCommand => "empty layout tool command"
  | scene e => e.message

/-- Positions by node name. -/
abbrev Positions := Table String Point

/-- A way to lay out graphs. -/
abbrev LayoutEngine := LayoutGraph → Except LayoutError Positions

namespace LayoutEngine

/-- Spaces the nodes evenly on the unit circle. -/
def circular : LayoutEngine := fun g =>
  let step := fullTurn / (max g.nodes.length 1).toFloat
  .ok (Table.ofList (g.nodes.zipIdx.map fun (name, i) =>
    (name, Point.onUnitCircle (step * i.toFloat - quarterTurn))))

end LayoutEngine

namespace Scene

/-- The pair of names that an object links, if it is a link between two of the given names. -/
def edge? (s : Scene) (nodes : List String) (e : Entity) : Option (String × String) :=
  match e.shape with
  | .link source target _ => do
      let a ← s.entity? source
      let b ← s.entity? target
      if nodes.contains a.name && nodes.contains b.name then some (a.name, b.name) else none
  | _ => none

/-- The graph of the given names and of the links between them, in order of creation. -/
def layoutGraph (s : Scene) (names : List String) : LayoutGraph :=
  ⟨names, s.objects.filterMap (s.edge? names)⟩

end Scene

end Storyboard
