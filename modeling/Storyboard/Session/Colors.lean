import Storyboard.Color.Palette
import Storyboard.Script.Number
import Storyboard.Session.Fault

/-!
# Colours in arguments

A colour token is a hash sign with six or eight hexadecimal digits, three or four components
between commas, a packed number, or a name of the palette. The arguments that define a name
are one packed number or three or four components.
-/

namespace Storyboard.Palette

/-- A packed colour: an integer of 32 bits. -/
def packed? (v : Float) : Option Rgba :=
  if v.floor == v && 0.0 ≤ v && v ≤ 4294967295.0 then some (.ofPacked v.toUInt32) else none

/-- A colour of three or four components; the fourth is one where it is left out. -/
def components? : List Float → Option Rgba
  | [r, g, b] => some (.ofComponents r g b 1.0)
  | [r, g, b, a] => some (.ofComponents r g b a)
  | _ => none

/-- A colour of six or eight hexadecimal digits; six digits stand for an opaque colour. -/
def hex? (digits : List Char) : Option Rgba :=
  match digits.length, Number.hexDigits? digits with
  | 6, some v => some (.ofPacked (v * 256 + 255).toUInt32)
  | 8, some v => some (.ofPacked v.toUInt32)
  | _, _ => none

/-- How a colour token is written. -/
inductive ColorForm where
  /-- Digits after a hash sign. -/
  | hex (digits : List Char)
  /-- Components between commas. -/
  | list (items : List (List Char))
  | packed (v : Float)
  | name
  deriving DecidableEq, Repr

namespace ColorForm

/-- The way a token is written. -/
def ofChars : List Char → ColorForm
  | '#' :: digits => .hex digits
  | cs =>
      if cs.contains ',' then .list (cs.splitOn ',')
      else
        match Number.ofChars? cs with
        | some v => .packed v
        | none => .name

/-- The colour that a token spells out, if it does and is well formed. -/
def rgba? : ColorForm → Option Rgba
  | hex digits => hex? digits
  | list items => (items.mapM Number.ofChars?).bind components?
  | packed v => packed? v
  | name => none

end ColorForm

/-- The colour that a token denotes. -/
def parseColor (p : Palette) (token : String) : Except Fault ColorSpec :=
  match ColorForm.ofChars token.toList with
  | .name => if p.contains token then .ok (.named token) else .error (.undefinedColor token)
  | form =>
      match form.rgba? with
      | some rgba => .ok (.literal rgba)
      | none => .error (.badColor token)

/-- The components that a list of arguments spells. -/
def readComponents : List String → Except Fault (List Float)
  | [] => .ok []
  | token :: rest =>
      match Number.ofToken? token with
      | none => .error (.badComponent token)
      | some v => (readComponents rest).map (v :: ·)

/-- The colour that the arguments of a definition spell. -/
def readColor (args : List String) : Except Fault Rgba := do
  match args, ← readComponents args with
  | token :: _, [v] =>
      match packed? v with
      | some rgba => .ok rgba
      | none => .error (.badPackedColor token)
  | _, values =>
      match components? values with
      | some rgba => .ok rgba
      | none => .error (.colorCount args.length)

end Storyboard.Palette
