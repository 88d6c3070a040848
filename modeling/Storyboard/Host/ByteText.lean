import Storyboard.Regex.CharSet

/-!
# Bytes as text

The text filters work on bytes. A byte is seen as the character with its number, so that sets
and patterns of characters serve for bytes as well. Operands write bytes that cannot be typed
as escapes after a backslash.
-/

namespace Storyboard.ByteText

/-- The bytes of a text, one character for each. -/
def ofString (s : String) : List Char := s.toUTF8.toList.map fun b => Char.ofNat b.toNat

/-- Bytes, one character for each. -/
def ofBytes (bytes : List UInt8) : List Char := bytes.map fun b => Char.ofNat b.toNat

/-- The bytes that characters stand for. -/
def toBytes (cs : List Char) : List UInt8 := cs.map fun c => c.toNat.toUInt8

/-- The byte that an escape letter stands for. -/
def control? : Char → Option Char
  | 'a' => some '\x07'
  | 'f' => some '\x0c'
  | 'n' => some '\n'
  | 'r' => some '\r'
  | 't' => some '\t'
  | 'v' => some '\x0b'
  | _ => none

/-- The set of a class by its name. -/
def classOf? (name : String) : Option CharSet :=
  if name = "ascii" || name = "word" then none else CharSet.ofClassName? name

/-- The members of a set, in ascending order. -/
def members (s : CharSet) : List Char := ((List.range 256).map Char.ofNat).filter s.contains

/-- The value of a digit. -/
def digitValue (c : Char) : Nat :=
  if c.isDigit then c.toNat - 48 else if c.isUpper then c.toNat - 55 else c.toNat - 87

/-- Whether a character is an octal digit. -/
def isOctal (c : Char) : Bool := '0' ≤ c && c ≤ '7'

/-- Whether a character is a hexadecimal digit. -/
def isHex (c : Char) : Bool := c.isDigit || ('a' ≤ c && c ≤ 'f') || ('A' ≤ c && c ≤ 'F')

end Storyboard.ByteText
