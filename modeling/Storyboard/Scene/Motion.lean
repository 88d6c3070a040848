import Storyboard.Scene.Hierarchy

/-!
# Ticks

A tick advances the objects of a snapshot one after another. A moving object that is within
one step of its goal on both axes has arrived and stays where it is; any other steps towards
its goal, and has arrived if the goal is then within one step. A fading object loses one part
of its opacity, and those that have become transparent leave the scene and the snapshot at
the end of the tick.
-/

namespace Storyboard

/-- Opacity up to this counts as none. -/
def fadeEpsilon : Float := 1e-9

/-- Whether a goal is less than one step away on both axes. -/
def arrived (delta : Point) (velocity : Float) : Bool :=
  delta.x.abs < velocity && delta.y.abs < velocity

/-- Stops an object. -/
def Entity.halt (e : Entity) : Entity := { e with motion := none }

/-- What a tick has done so far: the scene, whether anything moved or faded, and the objects
that have become transparent. -/
structure TickState where
  scene : Scene
  changed : Bool
  faded : List EntityId

namespace Scene

/-- The state at the start of a tick. -/
def tickStart (s : Scene) : TickState := ⟨s, false, []⟩

/-- Moves an object from its position by one step of its motion. -/
def advance (s : Scene) (id : EntityId) (pos : Point) (m : Motion) : Scene :=
  let delta := m.goal - pos
  if arrived delta m.velocity then s.modify id Entity.halt
  else
    let next := pos + delta.direction.scale m.velocity
    let s := if arrived (m.goal - next) m.velocity then s.modify id Entity.halt else s
    match s.moveId id next with
    | .ok s => s
    | .error _ => s.modify id Entity.halt

/-- One step of an object's motion, if it has any. -/
def stepMotion (t : TickState) (id : EntityId) : TickState :=
  match t.scene.entity? id with
  | none => t
  | some e =>
      match e.motion with
      | none => t
      | some m => { t with scene := t.scene.advance id e.pos m, changed := true }

/-- One step of an object's fading, if it fades. -/
def stepFade (t : TickState) (id : EntityId) : TickState :=
  match t.scene.entity? id with
  | none => t
  | some e =>
      if e.fadeOut then
        let alpha := e.alpha - 1.0 / t.scene.config.frameRate
        { scene := t.scene.modify id fun e => { e with alpha := alpha }
          changed := true
          faded := if alpha ≤ fadeEpsilon then t.faded ++ [id] else t.faded }
      else t

/-- Motion and fading of one object. -/
def stepEntity (t : TickState) (id : EntityId) : TickState := stepFade (stepMotion t id) id

/-- Advances the objects of a snapshot by one tick. The answer is the scene left, the snapshot
without the objects that have gone, and whether anything moved or faded. -/
def tick (s : Scene) (order : List EntityId) : Scene × List EntityId × Bool :=
  let t := order.foldl stepEntity s.tickStart
  (t.faded.foldl remove t.scene, order.filter (fun id => !t.faded.contains id), t.changed)

end Scene

end Storyboard
