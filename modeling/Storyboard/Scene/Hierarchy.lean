import Storyboard.Scene.Basic

/-!
# Positions and hierarchy

Positions are stored with every object. An attached object stands at its offset from its
parent, so whenever an object moves, its descendants are moved after it. Only free objects
can be moved, animated, or turned; attaching an object below itself is refused.

A link has no position of its own: it is where the midpoint of its two ends is, while both
are alive.

Both walks through the hierarchy, up the parents and down the children, are bounded in depth by
the number of objects, because no line of descent meets an object twice.
-/

namespace Storyboard.Scene

/-! ## Positions -/

/-- The ends of a link, while both objects are alive. -/
def linkEnds? (s : Scene) (source target : EntityId) : Option (Point × Point) := do
  let a ← s.entity? source
  let b ← s.entity? target
  some (a.pos, b.pos)

/-- The position of an object, derived from the ends for a link. -/
def positionOf? (s : Scene) (id : EntityId) : Option Point := do
  let e ← s.entity? id
  match e.shape with
  | .link source target _ => (s.linkEnds? source target).map fun (a, b) => Point.midpoint a b
  | _ => some e.pos

/-- The position of the object with a name. -/
def position? (s : Scene) (name : String) : Option Point := (s.id? name).bind s.positionOf?

/-! ## Moving -/

/-- Puts an object at its offset from its parent's position. -/
def follow (origin : Point) (e : Entity) : Entity := { e with pos := origin + e.offset }

/-- Moves the descendants of an object after it: first its children, then what is below each of
them, beginning with the last child. An object that several others list as a child is moved for
each of them in turn. `fuel` bounds the depth of the descent. -/
def settle : Nat → EntityId → Table EntityId Entity → Table EntityId Entity
  | 0, _, t => t
  | fuel + 1, id, t =>
      match t.get? id with
      | none => t
      | some parent =>
          let live := parent.children.filter t.contains
          live.reverse.foldl (fun t c => settle fuel c t)
            (live.foldl (fun t c => t.modify c (follow parent.pos)) t)

/-- Moves the descendants of an object after it. -/
def repositionChildren (s : Scene) (id : EntityId) : Scene :=
  { s with entities := settle (s.count + 1) id s.entities }

/-- Puts an object at a position. -/
def putAt (pos : Point) (e : Entity) : Entity := { e with pos := pos }

/-- Moves a free object and its descendants; nothing happens if there is no such object. -/
def moveId (s : Scene) (id : EntityId) (pos : Point) : Except SceneError Scene :=
  match s.entity? id with
  | none => .ok s
  | some e =>
      if e.parent.isSome then .error (.attachedMove e.name)
      else .ok ((s.modify id (putAt pos)).repositionChildren id)

/-- Moves the free object with a name and its descendants. -/
def moveTo (s : Scene) (name : String) (pos : Point) : Except SceneError Scene := do
  s.moveId (← s.idOf name) pos

/-- Moves the free object with a name by a distance. -/
def shift (s : Scene) (name : String) (delta : Point) : Except SceneError Scene := do
  let id ← s.idOf name
  let pos := ((s.entity? id).map Entity.pos).getD Point.zero
  s.moveId id (pos + delta)

/-- Gives the object with a name a new size. -/
def resize (s : Scene) (name : String) (size : Point) : Except SceneError Scene :=
  s.update name fun e => { e with shape := e.shape.resize size }

/-! ## Attaching -/

/-- Whether a walk from an object up through its parents meets a given object; `fuel` bounds
its length. -/
def climbsTo (s : Scene) (goal : EntityId) : Nat → Option EntityId → Bool
  | 0, _ => false
  | _, none => false
  | fuel + 1, some id => id == goal || climbsTo s goal fuel ((s.entity? id).bind Entity.parent)

/-- Takes an identifier to the end of an object's list of children. -/
def pushChild (id : EntityId) (e : Entity) : Entity := { e with children := e.children ++ [id] }

/-- Ties an object to a parent at an offset and stops it. -/
def tieTo (parent : EntityId) (offset : Point) (e : Entity) : Entity :=
  { e with parent := some parent, offset := offset, motion := none }

/-- Hands an object over from the parent it has, if any, to another one. -/
def retie (s : Scene) (child parent : EntityId) (offset : Point) : Scene :=
  let old := (s.entity? child).bind Entity.parent
  { s with
    entities :=
      ((leave child old s.entities).modify parent (pushChild child)).modify child
        (tieTo parent offset) }

/-- Makes an object follow another at an offset, whatever it followed before. -/
def attach (s : Scene) (child parent : String) (offset : Point) : Except SceneError Scene := do
  let childId ← s.idOf child
  let parentId ← s.idOf parent
  if s.climbsTo childId (s.count + 1) (some parentId) then .error (.attachCycle child parent)
  else .ok ((s.retie childId parentId offset).repositionChildren parentId)

/-! ## Animating -/

/-- Sends a free object to a goal, at a speed that gets it there in about as many ticks as the
frame rate says, and at one pixel per tick at least. -/
def animate (s : Scene) (name : String) (goal : Point) : Except SceneError Scene :=
  match s.get? name with
  | none => .error (.unknownObject name)
  | some e =>
      if e.parent.isSome then .error (.attachedAnimate name)
      else
        let speed := e.pos.distance goal / s.config.frameRate
        let velocity := if 1.0 < speed then speed else 1.0
        s.update name fun e => { e with motion := some ⟨goal, velocity⟩ }

end Storyboard.Scene
