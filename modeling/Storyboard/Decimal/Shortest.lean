import Storyboard.Decimal.Binary64

/-!
# Shortest decimal text

Messages and dumps write a number with the fewest significant digits that read back as the
same double, never with an exponent, and without a point if it is whole.

A double stands for the interval of reals that round to it; the ends belong to the interval
exactly if the significand is even. For one digit, two digits, and so on, the two points of
that decimal grid around the value are tried in exact integer arithmetic. The first grid
with a point inside the interval wins, of two such points the nearer one, and of two equally
near ones the upper.
-/

namespace Storyboard.Decimal

/-- A positive decimal number `digits * 10 ^ exponent`. -/
structure Scaled where
  digits : Nat
  exponent : Int
  deriving Repr, DecidableEq

/-- The reals that round to a double, and the double itself, over one denominator. -/
structure Rounding where
  lower : Nat
  value : Nat
  upper : Nat
  denominator : Nat
  /-- Whether the two ends round to the double as well. -/
  closed : Bool
  deriving Repr, DecidableEq

/-- The interval that rounds to `m * 2 ^ e`. Below a power of two the spacing halves. -/
def Rounding.of (m : Nat) (e : Int) : Rounding :=
  let below := if m = hiddenBit ∧ e ≠ minExponent then 1 else 2
  { lower := numerator (4 * m - below) (e - 2)
    value := numerator (4 * m) (e - 2)
    upper := numerator (4 * m + 2) (e - 2)
    denominator := Decimal.denominator (e - 2)
    closed := m % 2 == 0 }

/-- Whether `n / d` rounds to the double. -/
def Rounding.contains (r : Rounding) (n d : Nat) : Bool :=
  let n' := n * r.denominator
  if r.closed then r.lower * d ≤ n' && n' ≤ r.upper * d
  else r.lower * d < n' && n' < r.upper * d

/-- The number of digits before the point of `n / d`, zero or negative for small values. -/
def magnitude (n d : Nat) : Int :=
  let guess := ((n.log2 : Int) - (d.log2 : Int) - 1) * 30103 / 100000
  let reaches (k : Int) : Bool := d * Nat.pow 10 k.toNat ≤ n * Nat.pow 10 (-k).toNat
  if reaches (guess + 1) then
    if reaches (guess + 2) then guess + 3 else guess + 2
  else if reaches guess then guess + 1
  else guess

/-- The grid point with `count` digits that reads back, if there is one. -/
def Rounding.onGrid (r : Rounding) (size : Int) (count : Nat) : Option Scaled :=
  let exponent := size - count
  let up := Nat.pow 10 exponent.toNat
  let down := Nat.pow 10 (-exponent).toNat
  let num := r.value * down
  let den := r.denominator * up
  let q := num / den
  let low := r.contains (q * up) down
  let high := r.contains ((q + 1) * up) down
  let nearerLow := 2 * (num % den) < den
  if low && (nearerLow || !high) then some ⟨q, exponent⟩
  else if high then some ⟨q + 1, exponent⟩
  else none

/-- The first grid with a point that reads back, trying `fuel` further digit counts. -/
def Rounding.search (r : Rounding) (size : Int) (count : Nat) : Nat → Scaled
  | 0 => ⟨r.value / r.denominator, 0⟩
  | fuel + 1 =>
      match r.onGrid size count with
      | some s => s
      | none => r.search size (count + 1) fuel

/-- The shortest decimal number that reads back as `m * 2 ^ e`; seventeen digits suffice. -/
def shortestScaled (m : Nat) (e : Int) : Scaled :=
  let r := Rounding.of m e
  r.search (magnitude r.value r.denominator) 1 17

/-- Drops the zeros at the end of a list of digits. -/
def dropZeros (ds : List Char) : List Char := (ds.reverse.dropWhile (· = '0')).reverse

/-- Writes a decimal number without exponent. -/
def Scaled.positional (s : Scaled) : List Char :=
  let ds := Decimal.digits s.digits
  if 0 ≤ s.exponent then ds ++ List.replicate s.exponent.toNat '0'
  else
    let places := (-s.exponent).toNat
    let padded := List.replicate (places + 1 - ds.length) '0' ++ ds
    let whole := padded.length - places
    let fraction := dropZeros (padded.drop whole)
    if fraction.isEmpty then padded.take whole else padded.take whole ++ '.' :: fraction

/-- The shortest text of a double. -/
def shortest (x : Float) : String :=
  match decode x with
  | .nan => "NaN"
  | .infinite negative => if negative then "-inf" else "inf"
  | .finite negative m e =>
      let body := if m = 0 then ['0'] else (shortestScaled m e).positional
      String.ofList ((if negative then ['-'] else []) ++ body)

end Storyboard.Decimal
