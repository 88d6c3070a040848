import Storyboard.Decimal.Numeral
import Storyboard.Text.Blank

/-!
# Numbers in scripts

A numeric token is a decimal numeral with a finite value, or `0x` followed by hexadecimal
digits for a value that fits into 64 bits; either may have a sign, and blanks around it are
ignored. Every other token is a name.
-/

namespace Storyboard.Number

/-- The value of a hexadecimal digit. -/
def hexValue? (c : Char) : Option Nat :=
  if c.isDigit then some (c.toNat - '0'.toNat)
  else if 'a' ≤ c && c ≤ 'f' then some (c.toNat - 'a'.toNat + 10)
  else if 'A' ≤ c && c ≤ 'F' then some (c.toNat - 'A'.toNat + 10)
  else none

/-- The value of a list of hexadecimal digits, continuing from `start`. -/
def hexFrom? (start : Nat) : List Char → Option Nat
  | [] => some start
  | c :: cs => (hexValue? c).bind fun d => hexFrom? (start * 16 + d) cs

/-- The value of one or more hexadecimal digits. -/
def hexDigits? (cs : List Char) : Option Nat := if cs.isEmpty then none else hexFrom? 0 cs

/-- A hexadecimal number of at most 64 bits. A plus sign may precede its digits. -/
def hexWord? (cs : List Char) : Option Nat :=
  let n := match cs with
    | '+' :: ds => hexDigits? ds
    | ds => hexDigits? ds
  n.filter (· < 0x10000000000000000)

/-- The digits after the mark of a hexadecimal number. -/
def hexBody? : List Char → Option (List Char)
  | '0' :: 'x' :: rest => some rest
  | '0' :: 'X' :: rest => some rest
  | _ => none

/-- The value of a number without its sign. -/
def unsigned? (body : List Char) : Option Float :=
  match hexBody? body with
  | some ds => (hexWord? ds).map fun n => Decimal.nearest n 0
  | none => (Decimal.unsigned? body).filter Float.isFinite

/-- The value of a numeric token. -/
def ofChars? (token : List Char) : Option Float :=
  match Text.trim token with
  | '-' :: body => (unsigned? body).map fun x => -x
  | '+' :: body => unsigned? body
  | body => unsigned? body

/-- The value of a numeric token. -/
def ofToken? (token : String) : Option Float := ofChars? token.toList

/-- Whether a token is a number. -/
def isNumber (token : String) : Bool := (ofToken? token).isSome

end Storyboard.Number
