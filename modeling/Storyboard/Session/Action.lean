import Storyboard.Script.Statement
import Storyboard.Session.Blueprint
import Storyboard.Session.Names

/-!
# Actions

An action is a statement with its operands resolved: names instead of patterns, points
instead of coordinates, paths instead of file names. Reading a statement into an action
finds every fault of its operands and leaves the scene as it is; only an action changes it.

Main definitions:

- `Action`: what a statement asks for.
- `Action.read`: the action of a verb with its arguments.
-/

namespace Storyboard

/-- A new value for one setting of an object. -/
inductive Change where
  | alpha (v : Float)
  | color (c : ColorSpec)
  | priority (v : Float)
  | scale (v : Float)
  | fade
  | fix
  | hide
  | unhide
  deriving DecidableEq, Repr

/-- Makes a change to an object. -/
def Change.apply (c : Change) (e : Entity) : Entity :=
  match c with
  | alpha v => { e with alpha := v }
  | color c => { e with color := c }
  | priority v => { e with priority := v }
  | scale v => { e with scale := v }
  | fade => { e with fadeOut := true }
  | fix => { e with fixed := true }
  | hide => { e with visible := false }
  | unhide => { e with visible := true }

/-- What a statement asks for, with its operands resolved. -/
inductive Action where
  | change (c : Change) (names : List String)
  | animate (goal : Point) (names : List String)
  | attach (parent : String) (offset : Point) (names : List String)
  | move (pos : Point) (names : List String)
  | shift (delta : Point) (names : List String)
  | resize (size : Point) (names : List String)
  | kill (names : List String)
  /-- Builds a blueprint, under a generated name if none is given. -/
  | define (name : Option String) (blueprint : Blueprint)
  | defineColor (name : String) (rgba : Rgba)
  | play (path : String)
  | display
  | wait
  /-- Lets time pass, which changes nothing else. -/
  | sleep (seconds : Float)
  /-- Lays out objects in a rectangle, with the tool of a command if one is given. -/
  | spring (start finish : Point) (names : List String) (rotation : Angle)
      (tool : Option String)
  deriving DecidableEq, Repr

namespace Action

/-- The objects in use that an argument stands for. -/
def named (s : Stage) (token : String) : Except Fault (List String) :=
  s.scene.expandName .existing token

/-! ## Settings -/

/-- A number cut to the range from zero to one. -/
def unitClamp (v : Float) : Float := if v < 0.0 then 0.0 else if 1.0 < v then 1.0 else v

/-- Reads a pattern and the new value of a setting; the value is read first. -/
def readSetting (s : Stage) (usage : String) (value : String → Except Fault Change) :
    List String → Except Fault Action
  | [pattern, token] => do
      let c ← value token
      let names ← named s pattern
      .ok (.change c names)
  | _ => .error (.usage usage)

/-- Reads the objects whose switch is set. -/
def readSwitch (s : Stage) (c : Change) (args : List String) : Except Fault Action :=
  if args.isEmpty then .error (.missing "object name")
  else (s.scene.expandNames .existing args).map (.change c)

/-- Reads the objects that are removed, each of which is removed once. -/
def readKill (s : Stage) (args : List String) : Except Fault Action :=
  if args.isEmpty then .error (.missing "object name")
  else (s.scene.expandNames .noMatch args).map fun names => .kill names.eraseDups

/-! ## Moves -/

/-- Reads a pattern and a point; `what` says what the point is. -/
def readPlace (s : Stage) (what : String) (args : List String) :
    Except Fault (Point × List String) := do
  let slots : Operands (String × Point) := do
    let pattern ← Operands.required "object name"
    let point ← Operands.requiredPosition s.scene what
    return (pattern, point)
  let (pattern, point) ← slots.readAll args
  .ok (point, ← named s pattern)

/-- Reads a pattern, a parent and an offset. -/
def readAttach (s : Stage) (args : List String) : Except Fault Action := do
  let slots : Operands (String × String × Point) := do
    let pattern ← Operands.required "object name"
    let parent ← Operands.required "parent name"
    let offset ← Operands.pair s.scene 0.0 0.0
    return (pattern, parent, offset)
  let (pattern, parent, offset) ← slots.readAll args
  match s.scene.idOf parent with
  | .error e => .error (.scene e)
  | .ok _ => .ok (.attach parent offset (← named s pattern))

/-- Reads a pattern and a distance. -/
def readShift (s : Stage) : List String → Except Fault Action
  | [pattern, dx, dy] => do
      let x ← Operands.numberOf dx
      let y ← Operands.numberOf dy
      .ok (.shift (s.scene.expandPoint x y) (← named s pattern))
  | _ => .error (.usage "shift (name|regexp) dx dy")

/-! ## Definitions -/

/-- Reads a name, a kind and the operands of the kind. -/
def readDefine (s : Stage) : List String → Except Fault Action
  | token :: word :: args => do
      let name ← s.scene.definedName token
      match ShapeKind.ofWord? word.toList with
      | none => .error (.unknownShape word)
      | some kind => .ok (.define name (← Blueprint.read s kind args))
  | _ => .error (.usage "define name type [options] [arguments]")

/-- Reads a colour name and its colour. -/
def readPalette : List String → Except Fault Action
  | name :: values => (Palette.readColor values).map (.defineColor name)
  | [] => .error (.usage "palette name (r g b [a]|0xRRGGBBAA)")

/-! ## Rendering -/

/-- Reads no arguments. -/
def readBare (a : Action) : List String → Except Fault Action
  | [] => .ok a
  | token :: _ => .error (.extra token)

/-- Reads the file of a sound. -/
def readPlay (s : Stage) : List String → Except Fault Action
  | [file] =>
      match s.host.findAsset? file s.assetDirs with
      | some path => .ok (.play path)
      | none => .error (.missingSound file)
  | _ => .error (.usage "play file")

/-- Why a number of seconds is no duration, if it is none. Durations have 64 bits for whole
seconds. -/
def durationError? (seconds : Float) : Option DurationError :=
  if seconds < 0.0 then some .negative
  else if seconds < 18446744073709551616.0 then none
  else some .tooBigOrNaN

/-- Reads a number of seconds. -/
def readSleep : List String → Except Fault Action
  | [token] => do
      let seconds ← Operands.numberOf token
      match durationError? seconds with
      | some e => .error (.badDuration seconds e token)
      | none => .ok (.sleep seconds)
  | _ => .error (.usage "sleep seconds")

/-! ## Layouts -/

/-- The rotation given with an option. -/
def springRotation (options : Options) : Except Fault Angle :=
  match options.value? 'r' with
  | none => .ok Angle.zero
  | some token => (Operands.numberOf token).map Angle.mk

/-- The rectangle that a layout fills by default. -/
def springRegion (s : Scene) : Point × Point :=
  let low := Defaults.springMargin
  let high := 1.0 - Defaults.springMargin
  (s.expandPoint low low, s.expandPoint high high)

/-- Takes a rectangle off the end of a list of names, last name first. It is there if the
list is longer than four and the second and the last of its last four names are numbers. -/
def splitRegion? : List String → Option (List String × List String)
  | d :: c :: b :: a :: e :: rest =>
      if Number.isNumber b && Number.isNumber d then some ((e :: rest).reverse, [a, b, c, d])
      else none
  | _ => none

/-- The corners of a rectangle of four tokens. -/
def regionCorners (s : Scene) : List String → Except Fault (Point × Point)
  | [a, b, c, d] => do
      let start ← s.expandPosition a (some b)
      let finish ← s.expandPosition c (some d)
      .ok (start, finish)
  | _ => .ok (springRegion s)

/-- Reads the options of a layout, its objects and its rectangle. -/
def readSpring (s : Stage) (args : List String) : Except Fault Action :=
  match Options.read "f:r:" args with
  | .error e => .error (.badOption e args.head?)
  | .ok (options, rest) => do
      let rotation ← springRotation options
      let all ← s.scene.expandNames .existing rest
      let (names, region) := (splitRegion? all.reverse).getD (all, [])
      let (start, finish) ← regionCorners s.scene region
      .ok (.spring start finish names rotation (options.value? 'f'))

/-! ## All verbs -/

/-- The action of a verb with its arguments. -/
def read (s : Stage) (verb : Verb) (args : List String) : Except Fault Action :=
  let amount (change : Float → Change) (token : String) : Except Fault Change :=
    (Operands.numberOf token).map change
  match verb with
  | .alpha => readSetting s "alpha (name|regexp) alpha" (amount fun v => .alpha (unitClamp v)) args
  | .animate => (readPlace s "goal position" args).map fun (goal, names) => .animate goal names
  | .attach => readAttach s args
  | .color =>
      readSetting s "color (name|regexp) color"
        (fun token => (s.palette.parseColor token).map .color) args
  | .define => readDefine s args
  | .display => readBare .display args
  | .fade => readSwitch s .fade args
  | .fix => readSwitch s .fix args
  | .hide => readSwitch s .hide args
  | .kill => readKill s args
  | .move => (readPlace s "position" args).map fun (pos, names) => .move pos names
  | .palette => readPalette args
  | .play => readPlay s args
  | .priority => readSetting s "priority (name|regexp) level" (amount .priority) args
  | .resize => (readPlace s "size" args).map fun (size, names) => .resize size names
  | .scale => readSetting s "scale (name|regexp) ratio" (amount .scale) args
  | .shift => readShift s args
  | .sleep => readSleep args
  | .spring => readSpring s args
  | .unhide => readSwitch s .unhide args
  | .wait => readBare .wait args

end Action

end Storyboard
