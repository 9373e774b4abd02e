import ResourceMeter.Arithmetic
import ResourceMeter.Decimal
import ResourceMeter.Decimal.Rounding

/-!
# A fixed number of decimal places

`fixedText places x` writes the value of `x` rounded to `places` decimal places. It is the exact
value that is rounded, and a half goes to the even neighbour. The sign stays when the digits round
to zero.
-/

namespace ResourceMeter.Decimal

/-- The value in units of the last of `places` decimal places, rounded to the nearest unit. -/
def fixedUnits (places : Nat) (magnitude : Rat) : Nat :=
  roundDiv (magnitude.num.toNat * Nat.pow 10 places) magnitude.den .toEven

/-- The digits of a count of units of the last of `places` decimal places. -/
def unitsText (places : Nat) (units : Nat) : String :=
  if places = 0 then digits units
  else
    let fraction := digits (units % Nat.pow 10 places)
    digits (units / Nat.pow 10 places) ++ "." ++ zeros (places - fraction.length) ++ fraction

/-- A number with a fixed number of decimal places. -/
def fixedText {α : Type} [Arithmetic α] (places : Nat) (x : α) : String :=
  match Arithmetic.value x with
  | .notANumber => "NaN"
  | .infinite negative => sign negative ++ "inf"
  | .finite negative magnitude => sign negative ++ unitsText places (fixedUnits places magnitude)

end ResourceMeter.Decimal
