import Storyboard.Geometry.Measure
import Storyboard.Scene.Defaults

/-!
# Scene settings

Settings that are fixed for the lifetime of a scene. Sizes and rates have to be measures;
a rejected value leaves no settings.
-/

namespace Storyboard

/-- The settings of a scene. -/
structure SceneConfig where
  width : Float
  height : Float
  /-- The number of ticks that a goal-directed move is spread over. -/
  frameRate : Float
  /-- The number of frames that may be shown in a second, if it is limited. -/
  rateLimit : Option Float
  /-- Whether the status overlay is refreshed after each display. -/
  statusOverlay : Bool
  deriving DecidableEq, Repr

namespace SceneConfig

/-- The settings of a scene shown on a screen. -/
def standard : SceneConfig :=
  { width := Defaults.canvasWidth
    height := Defaults.canvasHeight
    frameRate := Defaults.frameRate
    rateLimit := some Defaults.rateLimit
    statusOverlay := true }

/-- The settings of a scene that is not shown: no frame limit and no overlay. -/
def headless : SceneConfig := { standard with rateLimit := none, statusOverlay := false }

instance : Inhabited SceneConfig := ⟨headless⟩

/-- Sets the size of the canvas. -/
def withSize (c : SceneConfig) (width height : Float) : Except MeasureError SceneConfig := do
  let width ← Measure.positive width
  let height ← Measure.positive height
  .ok { c with width := width, height := height }

/-- Sets the number of ticks of an animation. -/
def withFrameRate (c : SceneConfig) (rate : Float) : Except MeasureError SceneConfig :=
  (Measure.positive rate).map fun rate => { c with frameRate := rate }

/-- Sets or removes the frame limit. -/
def withRateLimit (c : SceneConfig) : Option Float → Except MeasureError SceneConfig
  | none => .ok { c with rateLimit := none }
  | some rate => (Measure.positive rate).map fun rate => { c with rateLimit := some rate }

/-- Switches the status overlay. -/
def withStatusOverlay (c : SceneConfig) (on : Bool) : SceneConfig := { c with statusOverlay := on }

end SceneConfig

end Storyboard
