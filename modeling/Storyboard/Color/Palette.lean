import Storyboard.Color.Rgba
import Storyboard.Color.Scheme
import Storyboard.Table

/-!
# Palettes

A palette gives colours to names. The built-in one has three ramps of one hundred and one
levels (`gray`, `heat` and `cool` followed by the level), a few named colours, and friendlier
colours under the names of the primaries.
-/

namespace Storyboard

/-- Colours by name. -/
abbrev Palette := Table String Rgba

namespace Palette

/-- The palette without names. -/
def empty : Palette := Table.empty

/-- The colour of a name. -/
def rgba? (p : Palette) (name : String) : Option Rgba := p.get? name

/-- Gives a colour to a name. -/
def define (p : Palette) (name : String) (rgba : Rgba) : Palette := p.insert name rgba

/-! ## The built-in names -/

/-- A ramp colour and its level. -/
def rampColors (scheme : ColorScheme) (level : Nat) : List (String × Rgba) :=
  let p := level.toFloat / 100.0
  let q := 1.0 - p
  let heat := scheme.at p
  [("gray" ++ toString level, .ofComponents p p p 1.0),
   ("heat" ++ toString level, .ofComponents heat.r heat.g heat.b 1.0),
   ("cool" ++ toString level, .ofComponents 0.0 (0.8 * p) (0.9 * p + 0.4 * q) 1.0)]

/-- The named colours. -/
def namedColors : List (String × Rgba) :=
  [("white", ⟨255, 255, 255, 255⟩),
   ("black", ⟨0, 0, 0, 255⟩),
   ("gray", ⟨190, 190, 190, 255⟩),
   ("orange", ⟨255, 165, 0, 255⟩),
   ("purple", ⟨160, 32, 240, 255⟩),
   ("pink", ⟨255, 192, 203, 255⟩),
   ("brown", ⟨165, 42, 42, 255⟩),
   ("SteelBlue", ⟨70, 130, 180, 255⟩),
   ("chocolate1", ⟨255, 127, 36, 255⟩),
   ("SkyBlue", ⟨135, 206, 235, 255⟩),
   ("PaleGreen", ⟨152, 251, 152, 255⟩),
   ("LightGoldenrod", ⟨238, 221, 130, 255⟩),
   ("navy", ⟨0, 0, 128, 255⟩),
   ("gold", ⟨255, 215, 0, 255⟩),
   ("ivory", ⟨255, 255, 240, 255⟩)]

/-- Names that stand for one of the named colours. -/
def aliases : List (String × String) :=
  [("blue", "SteelBlue"),
   ("red", "chocolate1"),
   ("magenta", "orange"),
   ("cyan", "SkyBlue"),
   ("green", "PaleGreen"),
   ("yellow", "LightGoldenrod")]

/-- Gives a name the colour of another name, if that one has a colour. -/
def addAlias (p : Palette) (entry : String × String) : Palette :=
  match p.rgba? entry.2 with
  | some rgba => p.define entry.1 rgba
  | none => p

/-- The built-in palette with heat colours from the given scheme. -/
def builtin (scheme : ColorScheme) : Palette :=
  let ramps := (List.range 101).flatMap (rampColors scheme)
  aliases.foldl addAlias (Table.ofList (ramps ++ namedColors))

end Palette

end Storyboard
