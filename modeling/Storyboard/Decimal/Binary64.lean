/-!
# Binary floating point numbers as integers

Exact decimal text is computed in integers. A finite double is a sign and a significand
scaled by a power of two; the decoding reads these three parts off its bits.
-/

namespace Storyboard.Decimal

/-- A double taken apart. -/
inductive Binary64 where
  | nan
  | infinite (negative : Bool)
  /-- The value `significand * 2 ^ exponent`, negated if `negative` is set. -/
  | finite (negative : Bool) (significand : Nat) (exponent : Int)
  deriving Repr, DecidableEq

/-- The significand of the smallest normal number. -/
def hiddenBit : Nat := 0x10000000000000

/-- The exponent of the subnormal numbers. -/
def minExponent : Int := -1074

/-- Takes a double apart. -/
def decode (x : Float) : Binary64 :=
  let bits := x.toBits.toNat
  let negative := bits / 0x8000000000000000 == 1
  let biased := bits / hiddenBit % 2048
  let fraction := bits % hiddenBit
  if biased = 2047 then
    if fraction = 0 then .infinite negative else .nan
  else if biased = 0 then .finite negative fraction minExponent
  else .finite negative (hiddenBit + fraction) ((biased : Int) + minExponent - 1)

/-- The numerator of `n * 2 ^ e` as a fraction of natural numbers. -/
def numerator (n : Nat) (e : Int) : Nat := n * Nat.pow 2 e.toNat

/-- The denominator of `n * 2 ^ e` as a fraction of natural numbers. -/
def denominator (e : Int) : Nat := Nat.pow 2 (-e).toNat

/-- The decimal digits of a natural number. -/
def digits (n : Nat) : List Char := Nat.toDigits 10 n

end Storyboard.Decimal
