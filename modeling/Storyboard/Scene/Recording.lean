import Storyboard.Scene.Placement

/-!
# Recordings

A renderer is asked to clear its canvas, to draw the objects of a frame, to show the frame, to
wait for its host, and to play sounds. A recording keeps these requests in order; what was
drawn, shown or played is read off it.
-/

namespace Storyboard

/-- One object of a frame. -/
structure FrameEntry where
  id : EntityId
  name : String
  placement : Placement
  alpha : Float
  deriving DecidableEq, Repr

/-- The objects of one frame in drawing order. -/
abbrev Frame := List FrameEntry

/-- A request to a renderer. -/
inductive RenderEvent where
  | clear
  | draw (frame : Frame)
  | present
  | wait
  | play (file : String)
  deriving DecidableEq, Repr

/-- The requests that a renderer has received, first one first. -/
structure Recording where
  events : Array RenderEvent
  deriving DecidableEq, Repr

namespace Recording

/-- Nothing has been requested. -/
def empty : Recording := ⟨#[]⟩

instance : Inhabited Recording := ⟨empty⟩

/-- Adds a request. -/
def push (r : Recording) (e : RenderEvent) : Recording := ⟨r.events.push e⟩

/-- The requests as a list. -/
def toList (r : Recording) : List RenderEvent := r.events.toList

@[simp] theorem toList_empty : empty.toList = [] := rfl

@[simp] theorem toList_push (r : Recording) (e : RenderEvent) :
    (r.push e).toList = r.toList ++ [e] := by
  simp [push, toList]

/-- The frames that have been drawn. -/
def frames (r : Recording) : List Frame :=
  r.toList.filterMap fun e => match e with
    | .draw f => some f
    | _ => none

/-- The sounds that have been played. -/
def played (r : Recording) : List String :=
  r.toList.filterMap fun e => match e with
    | .play f => some f
    | _ => none

/-- The number of times the canvas was cleared. -/
def clears (r : Recording) : Nat := r.toList.countP fun e => e matches .clear

/-- The number of frames that were shown. -/
def presents (r : Recording) : Nat := r.toList.countP fun e => e matches .present

/-- The number of times the renderer had to wait. -/
def waits (r : Recording) : Nat := r.toList.countP fun e => e matches .wait

/-- Draws and shows one frame. -/
def render (r : Recording) (frame : Frame) : Recording :=
  ((r.push .clear).push (.draw frame)).push .present

end Recording

end Storyboard
