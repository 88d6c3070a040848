import Storyboard.Decimal.Numeral
import Storyboard.Text.Alphanumeric

/-!
# Offset references

A position may be given relative to an object: its name followed by two signed offsets, as
in `node+10-20`. The name is a run of letters, digits and underscores of any script, and
each offset has digits with at most one point.
-/

namespace Storyboard

/-- An object name with an offset from its position. -/
structure OffsetReference where
  name : String
  dx : Float
  dy : Float
  deriving DecidableEq, Repr

namespace OffsetReference

/-- The characters of names that can carry an offset. -/
def isNameChar (c : Char) : Bool := Text.isAlphanumeric c || c = '_'

/-- The signs that introduce an offset. -/
def isSign (c : Char) : Bool := c = '+' || c = '-'

/-- The characters of an offset after its sign. -/
def isOffsetChar (c : Char) : Bool := c.isDigit || c = '.'

/-- The value of an offset. -/
def offset? (sign : Char) (body : List Char) : Option Float :=
  if body.all isOffsetChar then
    (Decimal.unsigned? body).map fun x => if sign = '-' then -x else x
  else none

/-- Reads two signed offsets. -/
def offsets? : List Char → Option (Float × Float)
  | [] => none
  | s₁ :: rest =>
      if isSign s₁ then
        let first := rest.takeWhile (fun c => !isSign c)
        match rest.dropWhile (fun c => !isSign c) with
        | [] => none
        | s₂ :: second => do
            let dx ← offset? s₁ first
            let dy ← offset? s₂ second
            some (dx, dy)
      else none

/-- Reads a name with two offsets. -/
def ofChars? (token : List Char) : Option OffsetReference :=
  let name := token.takeWhile isNameChar
  if name.isEmpty then none
  else
    (offsets? (token.dropWhile isNameChar)).map fun (dx, dy) => ⟨String.ofList name, dx, dy⟩

/-- Reads a name with two offsets. -/
def ofToken? (token : String) : Option OffsetReference := ofChars? token.toList

end OffsetReference

end Storyboard
