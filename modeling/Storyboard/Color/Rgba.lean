import Storyboard.Text.Quoted

/-!
# Colours as bytes

A colour handed to a renderer has four bytes: red, green, blue and opacity. It packs into
one 32-bit word, red first, and is written as eight hexadecimal digits after a hash sign.
-/

namespace Storyboard

/-- A colour of four bytes. -/
structure Rgba where
  r : UInt8
  g : UInt8
  b : UInt8
  a : UInt8
  deriving DecidableEq, Repr

namespace Rgba

/-- The four bytes of a packed colour, red the most significant. -/
def ofPacked (v : UInt32) : Rgba :=
  ⟨(v >>> 24).toUInt8, (v >>> 16).toUInt8, (v >>> 8).toUInt8, v.toUInt8⟩

/-- The colour as one word. -/
def packed (c : Rgba) : UInt32 :=
  (c.r.toUInt32 <<< 24) ||| (c.g.toUInt32 <<< 16) ||| (c.b.toUInt32 <<< 8) ||| c.a.toUInt32

/-- One byte of a colour: a number up to one is a ratio, a larger one a level. Values outside
the range of a byte go to its nearest end. -/
def component (x : Float) : UInt8 :=
  let level := (if x ≤ 1.0 then x * 255.0 else x).round
  if level < 0.0 then 0 else if 255.0 < level then 255 else level.toUInt8

/-- A colour of four ratios or levels. -/
def ofComponents (r g b a : Float) : Rgba := ⟨component r, component g, component b, component a⟩

/-- A byte as two hexadecimal digits. -/
def hexByte (v : UInt8) : List Char :=
  let ds := Text.hexDigits v.toNat
  List.replicate (2 - ds.length) '0' ++ ds

/-- The colour as eight hexadecimal digits after a hash sign. -/
def toText (c : Rgba) : String :=
  String.ofList ('#' :: (hexByte c.r ++ hexByte c.g ++ hexByte c.b ++ hexByte c.a))

end Rgba

/-- A colour as an object keeps it. -/
inductive ColorSpec where
  /-- A name, looked up in the palette when a frame is rendered. -/
  | named (name : String)
  | literal (rgba : Rgba)
  deriving DecidableEq, Repr

/-- The text that shows a colour. -/
def ColorSpec.toText : ColorSpec → String
  | named name => name
  | literal rgba => rgba.toText

end Storyboard
