import Storyboard.Decimal.Binary64

/-!
# Reading decimal numerals

A numeral is an optional sign, digits with an optional point, at least one of them, and an
optional exponent. Its value is the nearest double; values beyond the largest double read as
infinite. The words `inf`, `infinity` and `nan` are numerals in any letter case, for readers
that accept them.
-/

namespace Storyboard.Decimal

/-- The value of a decimal digit. -/
def digitValue (c : Char) : Nat := c.toNat - '0'.toNat

/-- The value of a list of decimal digits, continuing from `start`. -/
def valueFrom (start : Nat) (ds : List Char) : Nat :=
  ds.foldl (fun n c => n * 10 + digitValue c) start

/-- The nearest double to `n * 10 ^ e`. The exponent is bounded before it is used, so a
numeral with a huge exponent costs nothing. -/
def nearest (n : Nat) (e : Int) : Float :=
  let size := (digits n).length + e
  if n = 0 ∨ size < -400 then 0.0
  else if 400 < size then Float.ofBits 0x7ff0000000000000
  else Float.ofScientific n (decide (e < 0)) e.natAbs

/-- An exponent: an optional sign and at least one digit. -/
def exponent? : List Char → Option Int
  | '-' :: ds => if !ds.isEmpty && ds.all Char.isDigit then some (-(valueFrom 0 ds : Int)) else none
  | '+' :: ds => if !ds.isEmpty && ds.all Char.isDigit then some (valueFrom 0 ds) else none
  | ds => if !ds.isEmpty && ds.all Char.isDigit then some (valueFrom 0 ds) else none

/-- An unsigned numeral. -/
def unsigned? (cs : List Char) : Option Float :=
  let whole := cs.takeWhile Char.isDigit
  let rest := cs.dropWhile Char.isDigit
  let (places, rest) := match rest with
    | '.' :: more => (more.takeWhile Char.isDigit, more.dropWhile Char.isDigit)
    | _ => ([], rest)
  if whole.isEmpty && places.isEmpty then none
  else
    let n := valueFrom 0 (whole ++ places)
    match rest with
    | [] => some (nearest n (-(places.length : Int)))
    | c :: more =>
        if c = 'e' ∨ c = 'E' then
          (exponent? more).map fun e => nearest n (e - places.length)
        else none

/-- The words that stand for values which are not finite. -/
def special? (cs : List Char) : Option Float :=
  let word := cs.map Char.toLower
  if word = ['i', 'n', 'f'] ∨ word = ['i', 'n', 'f', 'i', 'n', 'i', 't', 'y'] then
    some (Float.ofBits 0x7ff0000000000000)
  else if word = ['n', 'a', 'n'] then some (Float.ofBits 0x7ff8000000000000)
  else none

/-- A numeral or a special word, with an optional sign. -/
def numeral? (cs : List Char) : Option Float :=
  let unsignedOrSpecial (body : List Char) : Option Float :=
    (unsigned? body).or (special? body)
  match cs with
  | '-' :: body => (unsignedOrSpecial body).map (fun x => -x)
  | '+' :: body => unsignedOrSpecial body
  | body => unsignedOrSpecial body

end Storyboard.Decimal
