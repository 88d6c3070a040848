import Storyboard.Host.ByteText
import Storyboard.Host.Characters
import Storyboard.Text.Case

/-!
# Escapes in scripts

Characters that cannot be typed are written after a backslash: by a letter, as a control
character, or as a number. They are replaced before an expression, a replacement or a text is
read any further; where the character would then have a meaning of its own, it keeps a
backslash.
-/

namespace Storyboard.Sed

/-- What a text with escapes is. -/
inductive EscapeUse where
  | expression
  | replacement
  | plain
  deriving DecidableEq, Repr

/-- The base of a number after its letter, and the greatest number of its digits. -/
def numberBase? : Char → Option (Nat × Nat)
  | 'd' => some (10, 3)
  | 'o' => some (8, 3)
  | 'x' => some (16, 2)
  | _ => none

/-- The byte that a number stands for, and what follows it. -/
def readNumber? (base limit : Nat) (cs : List Char) : Option (UInt8 × List Char) :=
  let isDigit (c : Char) : Bool := ByteText.isHex c && ByteText.digitValue c < base
  let digits := (cs.take limit).takeWhile isDigit
  if digits.isEmpty then none
  else
    let value := digits.foldl (fun n c => n * base + ByteText.digitValue c) 0
    some (value.toUInt8, cs.drop digits.length)

/-- A byte as a character. -/
def byteChar (b : UInt8) : Char :=
  if b < 128 then Char.ofNat b.toNat else Characters.stray b

/-- A character given by its number. A backslash stands for itself everywhere, and an ampersand
in a replacement. -/
def numberedChars (use : EscapeUse) (b : UInt8) : List Char :=
  let c := byteChar b
  if c = '\\' || (c = '&' && use = .replacement) then ['\\', c] else [c]

/-- The control character of a key. -/
def controlOf (c : Char) : Char :=
  let n := (Text.toUpper c).toNat
  Char.ofNat (if n / 64 % 2 = 1 then n - 64 else n + 64)

/-- Replaces the escapes of a text; there is none if a control escape escapes again. `fuel`
bounds the length. -/
def replaceEscapesFrom? (use : EscapeUse) : Nat → List Char → Option (List Char)
  | 0, _ => some []
  | _, [] => some []
  | fuel + 1, '\\' :: 'c' :: c :: rest =>
      if c = '\\' then
        match rest with
        | '\\' :: rest =>
            (replaceEscapesFrom? use fuel rest).map fun t => controlOf '\\' :: t
        | _ => none
      else (replaceEscapesFrom? use fuel rest).map fun t => controlOf c :: t
  | fuel + 1, '\\' :: c :: rest =>
      match numberBase? c, ByteText.control? c with
      | some (base, limit), _ =>
          match readNumber? base limit rest with
          | some (b, rest) =>
              (replaceEscapesFrom? use fuel rest).map fun t => numberedChars use b ++ t
          | none => (replaceEscapesFrom? use fuel rest).map fun t => c :: t
      | none, some x => (replaceEscapesFrom? use fuel rest).map fun t => x :: t
      | none, none => (replaceEscapesFrom? use fuel rest).map fun t => '\\' :: c :: t
  | fuel + 1, c :: rest => (replaceEscapesFrom? use fuel rest).map fun t => c :: t

/-- Replaces the escapes of a text; there is none if a control escape escapes again. -/
def replaceEscapes? (use : EscapeUse) (cs : List Char) : Option (List Char) :=
  (replaceEscapesFrom? use (cs.length + 1) cs).map Characters.rejoin

/-- Drops the backslashes of a text, each for the character after it. -/
def dropBackslashes : List Char → List Char
  | '\\' :: c :: rest => c :: dropBackslashes rest
  | c :: rest => c :: dropBackslashes rest
  | [] => []

end Storyboard.Sed
