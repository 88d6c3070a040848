import Storyboard.Decimal.Binary64

/-!
# Decimal text with a fixed number of places

The exact value of a double is rounded to a given number of decimal places; a value
halfway between two neighbours goes to the even one. All digits before the point are
written.
-/

namespace Storyboard.Decimal

/-- The nearest integer to `num / den`, the even one of two. -/
def roundHalfEven (num den : Nat) : Nat :=
  let q := num / den
  let twice := 2 * (num % den)
  if twice < den then q
  else if den < twice then q + 1
  else if q % 2 = 0 then q
  else q + 1

/-- Writes `n / 10 ^ places` with all its places. -/
def placePoint (places n : Nat) : List Char :=
  let ds := digits n
  let padded := List.replicate (places + 1 - ds.length) '0' ++ ds
  let whole := padded.length - places
  if places = 0 then padded else padded.take whole ++ '.' :: padded.drop whole

/-- A double with a fixed number of decimal places. -/
def fixed (places : Nat) (x : Float) : String :=
  match decode x with
  | .nan => "NaN"
  | .infinite negative => if negative then "-inf" else "inf"
  | .finite negative m e =>
      let n := roundHalfEven (numerator m e * Nat.pow 10 places) (denominator e)
      String.ofList ((if negative then ['-'] else []) ++ placePoint places n)

end Storyboard.Decimal
