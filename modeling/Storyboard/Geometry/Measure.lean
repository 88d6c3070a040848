/-!
# Measures

Settings such as the canvas size and the frame rate have to be finite and positive numbers.
-/

namespace Storyboard

/-- Why a number cannot be used as a measure. -/
inductive MeasureError where
  | notANumber
  | infinite
  | zero
  | negative
  deriving DecidableEq, Repr

namespace MeasureError

/-- The wording of the rejection. -/
def message : MeasureError → String
  | notANumber => "value is NaN"
  | infinite => "value is infinite"
  | zero => "value is zero"
  | negative => "value is negative"

end MeasureError

namespace Measure

/-- Accepts finite numbers. -/
def finite (x : Float) : Except MeasureError Float :=
  if x.isNaN then .error .notANumber
  else if x.isInf then .error .infinite
  else .ok x

/-- Accepts finite numbers above zero. -/
def positive (x : Float) : Except MeasureError Float :=
  match finite x with
  | .error e => .error e
  | .ok x =>
      if x == 0.0 then .error .zero
      else if x < 0.0 then .error .negative
      else .ok x

end Measure

end Storyboard
