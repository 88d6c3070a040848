import Storyboard.Host.Basic
import Storyboard.Layout.Spring
import Storyboard.Layout.Tool
import Storyboard.Scene.Display
import Storyboard.Session.Action

/-!
# Sessions

A session is everything that a script reads or changes: a scene, a palette, what the renderer
has been asked for, the engine that lays out graphs, the host, and how many lines have been
read. Performing an action changes the session; if a step of the action is refused, the steps
before it stay done.

A display may go on for ever, so actions are performed with a limit on the ticks of one
display. An action has no result if the limit is too small, or if it needs more identifiers
than the counter of the scene has left; faults are results.

Main definitions:

- `Session.perform`: performs an action.
- `Session.execute`: reads a statement and performs its action.
-/

namespace Storyboard

/-- What happens to the statements after a failure. -/
inductive ErrorPolicy where
  /-- They are not executed. -/
  | abort
  /-- They are executed as if nothing had happened. -/
  | continue
  deriving DecidableEq, Repr

/-- How a session treats its lines. -/
structure Settings where
  policy : ErrorPolicy
  /-- Directories that are searched for bitmaps and sounds. -/
  assetDirs : List String
  /-- Whether lines have to match the strict grammar. -/
  strict : Bool
  deriving DecidableEq, Repr

namespace Settings

/-- A script stops at the first failure and is read by words. -/
def standard : Settings := ⟨.abort, ["figure"], false⟩

instance : Inhabited Settings := ⟨standard⟩

end Settings

/-- The state of a script run. -/
structure Session where
  scene : Scene
  palette : Palette
  recording : Recording
  engine : LayoutEngine
  host : Host
  settings : Settings
  /-- The name of the script in diagnostics. -/
  script : String
  /-- The number of lines read so far. -/
  line : Nat

namespace Session

/-- A session that has read nothing, with the built-in palette and the usual layout tool. -/
def new (config : SceneConfig) (host : Host) : Session :=
  { scene := Scene.empty config
    palette := Palette.builtin .hsv
    recording := Recording.empty
    engine := LayoutEngine.tool host Defaults.layoutTool
    host
    settings := Settings.standard
    script := "<script>"
    line := 0 }

/-- What the operands of a statement may refer to. -/
def stage (s : Session) : Stage := ⟨s.scene, s.palette, s.host, s.settings.assetDirs⟩

/-! ## Performing actions -/

/-- Continues with a scene, and with the fault if a step was refused. -/
def withScene (s : Session) (result : Scene × Option SceneError) : Session × Option Fault :=
  ({ s with scene := result.1 }, result.2.map .scene)

/-- Takes a step with each name, up to the first that is refused. -/
def each (s : Session) (names : List String)
    (step : Scene → String → Except SceneError Scene) : Session × Option Fault :=
  s.withScene (s.scene.forEach step names)

/-- Asks the renderer for something. -/
def request (s : Session) (e : RenderEvent) : Session :=
  { s with recording := s.recording.push e }

/-- The engine that a layout uses. -/
def engineFor (s : Session) (tool : Option String) : LayoutEngine :=
  match tool with
  | some command => LayoutEngine.tool s.host command
  | none => s.engine

/-- Runs the animation until it rests. A status overlay takes an identifier. -/
def display (limit : Nat) (s : Session) : Option Session :=
  if s.scene.config.statusOverlay && !s.scene.canCreate 1 then none
  else
    (s.scene.display limit s.recording).map fun d =>
      { s with scene := d.scene, recording := d.recording }

/-- Performs an action. -/
def perform (limit : Nat) (s : Session) : Action → Option (Session × Option Fault)
  | .change c names => some (s.each names fun t n => t.update n c.apply)
  | .animate goal names => some (s.each names fun t n => t.animate n goal)
  | .attach parent offset names => some (s.each names fun t n => t.attach n parent offset)
  | .move pos names => some (s.each names fun t n => t.moveTo n pos)
  | .shift delta names => some (s.each names fun t n => t.shift n delta)
  | .resize size names => some (s.each names fun t n => t.resize n size)
  | .kill names => some (s.each names fun t n => (t.delete n).map Prod.snd)
  | .define name blueprint =>
      if s.scene.canCreate (1 + blueprint.arrowheads.length) then
        let (e, scene) := s.scene.build name blueprint
        some ({ s with scene := scene.setLastName e.name }, none)
      else none
  | .defineColor name rgba => some ({ s with palette := s.palette.define name rgba }, none)
  | .play path => some (s.request (.play path), none)
  | .display => (s.display limit).map fun s => (s, none)
  | .wait => some (s.request .wait, none)
  | .sleep _ => some (s, none)
  | .spring start finish names rotation tool =>
      let (scene, refusal) := s.scene.spring start finish names rotation (s.engineFor tool)
      some ({ s with scene := scene }, refusal.map .layout)

/-! ## Executing statements -/

/-- After a statement its first argument is the name referenced last, if an object has it. A
definition has set the name that it created. -/
def remember (s : Session) (stmt : Statement) : Session :=
  match stmt.verb, stmt.args with
  | .define, _ => s
  | _, first :: _ =>
      if s.scene.contains first then { s with scene := s.scene.setLastName first } else s
  | _, [] => s

/-- Executes one statement. The answer is the session left and the fault, if there was one. -/
def execute (limit : Nat) (s : Session) (stmt : Statement) : Option (Session × Option Fault) :=
  match Action.read s.stage stmt.verb stmt.args with
  | .error f => some (s, some f)
  | .ok action =>
      (s.perform limit action).map fun
        | (s, none) => (s.remember stmt, none)
        | (s, some f) => (s, some f)

end Session

end Storyboard
