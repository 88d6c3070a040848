import Storyboard.Scene.Motion
import Storyboard.Scene.Recording

/-!
# Displaying a scene

A display takes a snapshot of the visible objects and ticks until a tick changes nothing; each
tick is followed by a frame of what is left of the snapshot. A script can ask for motions
that never settle, so a display is run with a limit on its ticks and has no result if the limit
is too small; a larger limit never changes a result.

If the scene keeps a status overlay, it is registered anew after the last frame. Its text stays
empty during the first second of a run, and scenes are run without regard to time.
-/

namespace Storyboard.Scene

/-- The frame of a snapshot. -/
def frame (s : Scene) (order : List EntityId) : Frame :=
  (s.placements order).map fun (e, p) => ⟨e.id, e.name, p, e.alpha⟩

/-- Counts a rendered frame. -/
def countFrame (s : Scene) : Scene := { s with frameCount := s.frameCount + 1 }

/-- What a display leaves: the scene, the recording and the number of frames. -/
structure Displayed where
  scene : Scene
  recording : Recording
  frames : Nat

/-- Ticks and renders until a tick changes nothing, at most `limit` times. -/
def settleFrames (s : Scene) (order : List EntityId) (r : Recording) (frames : Nat) :
    Nat → Option Displayed
  | 0 => none
  | limit + 1 =>
      let (s, order, changed) := s.tick order
      let r := r.render (s.frame order)
      let s := s.countFrame
      if changed then settleFrames s order r (frames + 1) limit
      else some ⟨s, r, frames + 1⟩

/-- The text of the status overlay. -/
def statusText (_ : Scene) : String := ""

/-- Registers the status overlay. -/
def updateStatus (s : Scene) : Scene :=
  let pos : Point := ⟨0.0 + Defaults.statusOffsetX, s.config.height + Defaults.statusOffsetY⟩
  let (e, s) := s.newEntity (some Defaults.statusName) pos
    (.text s.statusText Defaults.statusTextSize .center)
  s.add { e with color := .named Defaults.color, priority := Defaults.textPriority }

/-- Runs the animation of a scene until it rests. -/
def display (limit : Nat) (s : Scene) (r : Recording) : Option Displayed :=
  (s.settleFrames s.renderOrder r 0 limit).map fun d =>
    if d.scene.config.statusOverlay then { d with scene := d.scene.updateStatus } else d

end Storyboard.Scene
