import Storyboard.Host.Basic
import Storyboard.Script.Options
import Storyboard.Session.Operands

/-!
# Blueprints

A definition is carried out in two steps. Its operands are read into a blueprint, which says
everything about the new object except its identity; reading needs the scene but does not
change it. A blueprint is then built, which cannot fail: the object is registered first and
its arrowheads after it, in place of any objects that have their names.

Main definitions:

- `Blueprint.read`: the blueprint that the arguments of a definition spell.
- `Scene.build`: the scene with the objects of a blueprint.
-/

namespace Storyboard

/-- What operands may refer to. -/
structure Stage where
  scene : Scene
  palette : Palette
  host : Host
  /-- Directories that are searched for assets. -/
  assetDirs : List String

/-- A triangle at one end of a line. -/
structure Arrowhead where
  /-- What its name adds to the name of the line. -/
  suffix : String
  /-- The triangle points away from this point. -/
  origin : Point
  tip : Point
  stroke : Float
  deriving DecidableEq, Repr

/-- An object without identity, with its arrowheads. -/
structure Blueprint where
  shape : Shape
  pos : Point
  color : ColorSpec
  frameColor : Option ColorSpec := none
  arrowheads : List Arrowhead := []
  deriving DecidableEq, Repr

namespace Stage

/-- The path of an asset that a definition needs. -/
def asset (s : Stage) (file : String) : Except Fault String :=
  match s.host.findAsset? file s.assetDirs with
  | some path => .ok path
  | none => .error (.missingFile file)

/-- The object at one end of a link. -/
def linkEnd (s : Stage) (name : String) : Except Fault EntityId :=
  match s.scene.id? name with
  | some id => .ok id
  | none => .error (.undefinedEnd name)

/-- The colour given with the frame option. -/
def frameColor (s : Stage) (options : Options) : Except Fault (Option ColorSpec) :=
  match options.value? 'f' with
  | none => .ok none
  | some token => (s.palette.parseColor token).map some

end Stage

namespace Blueprint

/-- A position slot that is the middle of the canvas by default. -/
def anchorSlot (s : Stage) : Operands Point :=
  Operands.position s.scene Defaults.center Defaults.center

/-- A colour slot. -/
def colorSlot (s : Stage) : Operands ColorSpec := Operands.color s.palette Defaults.color

/-- A stroke slot. -/
def strokeSlot : Operands Float := Operands.number Defaults.strokeWidth

/-- The first end of a line. -/
def startSlot (s : Stage) : Operands Point :=
  Operands.position s.scene Defaults.lineStart Defaults.lineStart

/-- The second end of a line. -/
def endSlot (s : Stage) : Operands Point :=
  Operands.position s.scene Defaults.lineEnd Defaults.lineEnd

/-- The arrowheads that options ask for, given where the one at the end and the one at the
start point away from. -/
def arrowheadsOf (options : Options) (stroke : Float) (start finish : Point)
    (beforeFinish beforeStart : Point) : List Arrowhead :=
  (if options.has 'h' then [⟨"_head", beforeFinish, finish, stroke⟩] else [])
    ++ (if options.has 't' then [⟨"_tail", beforeStart, start, stroke⟩] else [])

/-! ## The kinds of shapes -/

/-- The operands of a bitmap: its file and its position. -/
def bitmap (s : Stage) : Operands Blueprint := do
  let file ← s.asset (← Operands.required "bitmap file")
  let pos ← anchorSlot s
  return { shape := .bitmap file none, pos, color := .named Defaults.color }

/-- The operands of a box: its sides, its colour and its position. -/
def box (s : Stage) (options : Options) : Operands Blueprint := do
  let size ← Operands.pair s.scene Defaults.boxSide Defaults.boxSide
  let color ← colorSlot s
  let pos ← anchorSlot s
  let frameColor ← s.frameColor options
  return { shape := .box size, pos, color, frameColor }

/-- The operands of an ellipse: its radii, its colour and its position. -/
def ellipse (s : Stage) (options : Options) : Operands Blueprint := do
  let radii ← Operands.pair s.scene Defaults.ellipseRadius Defaults.ellipseRadius
  let color ← colorSlot s
  let pos ← anchorSlot s
  let frameColor ← s.frameColor options
  return { shape := .ellipse (radii.scale 2.0), pos, color, frameColor }

/-- The operands of a link: its ends, its stroke and its colour. -/
def link (s : Stage) : Operands Blueprint := do
  let source ← Operands.required "link source"
  let target ← Operands.required "link destination"
  let source ← s.linkEnd source
  let target ← s.linkEnd target
  let stroke ← strokeSlot
  let color ← colorSlot s
  return { shape := .link source target stroke, pos := Point.zero, color }

/-- The operands of a line: its ends, its stroke and its colour. -/
def line (s : Stage) (options : Options) : Operands Blueprint := do
  let start ← startSlot s
  let finish ← endSlot s
  let stroke ← strokeSlot
  let color ← colorSlot s
  let arrowheads := arrowheadsOf options stroke start finish start finish
  return { shape := .line finish stroke, pos := start, color, arrowheads }

/-- The operands of a wire, which are those of a line. A wire leaves its start vertically and
reaches its end horizontally. -/
def wire (s : Stage) (options : Options) : Operands Blueprint := do
  let start ← startSlot s
  let finish ← endSlot s
  let stroke ← strokeSlot
  let color ← colorSlot s
  let arrowheads := arrowheadsOf options stroke start finish
    ⟨start.x, finish.y⟩ ⟨finish.x, start.y⟩
  return { shape := .wire finish stroke, pos := start, color, arrowheads }

/-- The operands of a spline: its start, its control point, its end, its stroke and its
colour. -/
def spline (s : Stage) (options : Options) : Operands Blueprint := do
  let start ← startSlot s
  let control ← Operands.position s.scene Defaults.splineControl Defaults.splineControl
  let finish ← endSlot s
  let stroke ← strokeSlot
  let color ← colorSlot s
  let arrowheads := arrowheadsOf options stroke start finish control control
  return { shape := .spline control finish stroke, pos := start, color, arrowheads }

/-- The number of sides of a polygon: an integer from three to the greatest of 16 bits. -/
def sideCount (v : Float) : Except Fault Nat :=
  if v.floor == v && 3.0 ≤ v && v ≤ 65535.0 then .ok v.toUInt32.toNat
  else .error (.tooFewSides v)

/-- The rotation given with an option. -/
def rotation (options : Options) : Except Fault Angle :=
  match options.value? 'r' with
  | none => .ok Angle.zero
  | some token =>
      match Number.ofToken? token with
      | some v => .ok ⟨v⟩
      | none => .error (.badRotation token)

/-- The operands of a polygon: the number of its sides, its radius, its colour and its
position. -/
def polygon (s : Stage) (options : Options) : Operands Blueprint := do
  let sides ← sideCount (← Operands.number Defaults.polygonSides)
  let radius ← Operands.number Defaults.polygonRadius
  let color ← colorSlot s
  let pos ← anchorSlot s
  let rotation ← rotation options
  let frameColor ← s.frameColor options
  return { shape := .polygon sides (radius * 2.0) rotation, pos, color, frameColor }

/-- Two underscores in a text stand for a blank. -/
def spaced : List Char → List Char
  | '_' :: '_' :: rest => ' ' :: spaced rest
  | c :: rest => c :: spaced rest
  | [] => []

/-- The alignment that options ask for. -/
def alignment (options : Options) : Align :=
  if options.has 'r' then .right else if options.has 'l' then .left else .center

/-- The operands of a text: its content, its size, its colour and its position. -/
def text (s : Stage) (options : Options) : Operands Blueprint := do
  let content ← Operands.text ""
  let size ← Operands.number Defaults.textSize
  let color ← colorSlot s
  let pos ← anchorSlot s
  let content := String.ofList (spaced content.toList)
  return { shape := .text content size (alignment options), pos, color }

/-- The operands of a definition of the given kind. -/
def operands (s : Stage) (options : Options) : ShapeKind → Operands Blueprint
  | .bitmap => bitmap s
  | .box => box s options
  | .ellipse => ellipse s options
  | .line => line s options
  | .link => link s
  | .polygon => polygon s options
  | .spline => spline s options
  | .text => text s options
  | .wire => wire s options

/-- The blueprint that the arguments after the kind spell. -/
def read (s : Stage) (kind : ShapeKind) (args : List String) : Except Fault Blueprint :=
  match Options.read kind.optionTemplate args with
  | .error e => .error (.badOption e args.head?)
  | .ok (options, rest) => (operands s options kind).readAll rest

end Blueprint

/-! ## Building -/

/-- The shape of an arrowhead. -/
def Arrowhead.shape (a : Arrowhead) : Shape :=
  .polygon 3 (a.stroke * Defaults.arrowheadScale * 2.0)
    (⟨90.0⟩ + Angle.ofSegment a.origin a.tip)

namespace Scene

/-- Creates and registers an object; the answer is the object and the scene with it. -/
def create (s : Scene) (name : Option String) (pos : Point) (shape : Shape) (color : ColorSpec)
    (frameColor : Option ColorSpec) : Entity × Scene :=
  let (e, s) := s.newEntity name pos shape
  let e := { e with color := color, frameColor := frameColor }
  (e, s.add e)

/-- Registers the arrowhead of a line with the given name and colour. -/
def addArrowhead (owner : String) (color : ColorSpec) (s : Scene) (a : Arrowhead) : Scene :=
  (s.create (some (owner ++ a.suffix)) a.tip a.shape color none).2

/-- Registers the object of a blueprint, then its arrowheads. -/
def build (s : Scene) (name : Option String) (b : Blueprint) : Entity × Scene :=
  let (e, s) := s.create name b.pos b.shape b.color b.frameColor
  (e, b.arrowheads.foldl (addArrowhead e.name b.color) s)

end Scene

end Storyboard
