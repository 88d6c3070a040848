/-!
# Hue ramps

A scheme assigns a colour to every brightness between zero and one. Colours are mixed from
hue, saturation and value and answered as ratios of red, green and blue.
-/

namespace Storyboard

/-- Ratios of red, green and blue. -/
structure Rgb where
  r : Float
  g : Float
  b : Float
  deriving DecidableEq, Repr

/-- The colour with a hue in degrees and a saturation and value between zero and one. -/
def Rgb.ofHsv (h s v : Float) : Rgb :=
  let sector := (h / 60.0).floor
  let f := h / 60.0 - sector
  let p := v * (1.0 - s)
  let q := v * (1.0 - f * s)
  let t := v * (1.0 - (1.0 - f) * s)
  match sector.toInt64.toInt % 6 with
  | 0 => ⟨v, t, p⟩
  | 1 => ⟨q, v, p⟩
  | 2 => ⟨p, v, t⟩
  | 3 => ⟨p, q, v⟩
  | 4 => ⟨t, p, v⟩
  | _ => ⟨v, p, q⟩

/-- The ramps that heat colours can be drawn from. -/
inductive ColorScheme where
  | hsv
  | cyanRed
  | blueOrange
  | blueYellow
  | purpleGreen
  | greenMagenta
  | greenRed
  deriving DecidableEq, Repr

/-- The colour of a scheme at a brightness. Two-ended schemes are pale in the middle. -/
def ColorScheme.at (scheme : ColorScheme) (p : Float) : Rgb :=
  let saturation := (p - 0.5).abs * 2.0
  match scheme with
  | hsv => .ofHsv (240.0 * (1.0 - p)) 0.9 1.0
  | cyanRed => .ofHsv (180.0 * (1.0 - p)) saturation 1.0
  | blueOrange => .ofHsv (30.0 + 180.0 * (1.0 - p)) saturation 1.0
  | blueYellow => .ofHsv (60.0 + 180.0 * (1.0 - p)) saturation 1.0
  | purpleGreen => .ofHsv (90.0 + 180.0 * (1.0 - p)) saturation 1.0
  | greenMagenta => .ofHsv (120.0 + 180.0 * p) saturation 1.0
  | greenRed => .ofHsv (150.0 + 180.0 * p) saturation 1.0

end Storyboard
