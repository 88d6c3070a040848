import Storyboard.Scene.Config
import Storyboard.Scene.Entity
import Storyboard.Scene.Error
import Storyboard.Table

/-!
# Scenes

A scene keeps its objects by identifier and the identifiers by name. Identifiers come from a
counter, so the order of identifiers is the order of creation. Registering an object under a
name that is taken discards the object that had it.

Removing an object takes it out of its parent's list of children and sets its own children
free where they stand.

Main definitions:

- `Scene.newEntity`, `Scene.add`, `Scene.remove`, `Scene.delete`: the registry.
- `Scene.forEach`: a list of steps, which stops at the first that is refused and keeps what
  the steps before it did.
-/

namespace Storyboard

/-- The objects of a script and the state that outlives single statements. -/
structure Scene where
  config : SceneConfig
  entities : Table EntityId Entity
  names : Table String EntityId
  /-- The identifier given out last. -/
  nextId : EntityId
  /-- The name referenced last. -/
  lastName : Option String
  /-- The number of frames rendered so far. -/
  frameCount : Nat

namespace Scene

/-- A scene without objects. -/
def empty (config : SceneConfig) : Scene :=
  { config
    entities := Table.empty
    names := Table.empty
    nextId := 0
    lastName := none
    frameCount := 0 }

instance : Inhabited Scene := ⟨empty default⟩

/-- The size of the canvas. -/
def size (s : Scene) : Point := ⟨s.config.width, s.config.height⟩

/-! ## Lookups -/

/-- The object with an identifier. -/
def entity? (s : Scene) (id : EntityId) : Option Entity := s.entities.get? id

/-- The identifier of a name. -/
def id? (s : Scene) (name : String) : Option EntityId := s.names.get? name

/-- Whether a name is in use. -/
def contains (s : Scene) (name : String) : Bool := s.names.contains name

/-- The object with a name. -/
def get? (s : Scene) (name : String) : Option Entity := (s.id? name).bind s.entity?

/-- The identifier of a name that has to be in use. -/
def idOf (s : Scene) (name : String) : Except SceneError EntityId :=
  match s.id? name with
  | some id => .ok id
  | none => .error (.unknownObject name)

/-- Every object in order of creation. -/
def objects (s : Scene) : List Entity := s.entities.values

/-- Every name in order of creation. -/
def liveNames (s : Scene) : List String := s.objects.map Entity.name

/-- The number of objects. -/
def count (s : Scene) : Nat := s.entities.size

/-! ## Updates -/

/-- Updates the object with an identifier, if there is one. -/
def modify (s : Scene) (id : EntityId) (f : Entity → Entity) : Scene :=
  { s with entities := s.entities.modify id f }

/-- Updates the object with a name. -/
def update (s : Scene) (name : String) (f : Entity → Entity) : Except SceneError Scene :=
  match s.id? name with
  | none => .error (.unknownObject name)
  | some id =>
      if s.entities.contains id then .ok (s.modify id f) else .error (.unknownObject name)

/-- Remembers a name as the one referenced last. -/
def setLastName (s : Scene) (name : String) : Scene := { s with lastName := some name }

/-- Runs a step for each item of a list, up to the first step that is refused. The answer is
the scene left and the refusal, if there was one. -/
def forEach {α ε : Type} (step : Scene → α → Except ε Scene) (s : Scene) :
    List α → Scene × Option ε
  | [] => (s, none)
  | a :: rest =>
      match step s a with
      | .ok s' => forEach step s' rest
      | .error e => (s, some e)

/-! ## Registry -/

/-- Draws the next identifier and makes an object with it, which is not registered yet. -/
def newEntity (s : Scene) (name : Option String) (pos : Point) (shape : Shape) :
    Entity × Scene :=
  let id := s.nextId + 1
  (Entity.new id (name.getD (Entity.autoName shape.kind id)) pos shape, { s with nextId := id })

/-- Whether the counter has that many identifiers left. -/
def canCreate (s : Scene) (count : Nat) : Bool := s.nextId.toNat + count < UInt64.size

/-- Takes an identifier out of an object's list of children. -/
def dropChild (id : EntityId) (e : Entity) : Entity :=
  { e with children := e.children.filter (· ≠ id) }

/-- Takes an identifier out of the list of children of a parent, if there is one. -/
def leave (id : EntityId) (parent : Option EntityId) (t : Table EntityId Entity) :
    Table EntityId Entity :=
  match parent with
  | some p => t.modify p (dropChild id)
  | none => t

/-- Sets an object free where it stands. -/
def orphan (e : Entity) : Entity := { e with parent := none, offset := Point.zero }

/-- Removes the object with an identifier, if there is one. -/
def remove (s : Scene) (id : EntityId) : Scene :=
  match s.entity? id with
  | none => s
  | some e =>
      { s with
        entities :=
          e.children.foldl (fun t c => t.modify c orphan) (leave id e.parent (s.entities.erase id))
        names := if s.id? e.name = some id then s.names.erase e.name else s.names }

/-- Registers an object under its name, in place of the object that had the name. -/
def add (s : Scene) (e : Entity) : Scene :=
  let s := match s.id? e.name with
    | some old => s.remove old
    | none => s
  { s with
    nextId := max s.nextId e.id
    names := s.names.insert e.name e.id
    entities := s.entities.insert e.id e }

/-- Removes the object with a name. -/
def delete (s : Scene) (name : String) : Except SceneError (Entity × Scene) :=
  match s.id? name with
  | none => .error (.unknownObject name)
  | some id =>
      match s.entity? id with
      | none => .error (.unknownObject name)
      | some e => .ok (e, s.remove id)

end Scene

end Storyboard
