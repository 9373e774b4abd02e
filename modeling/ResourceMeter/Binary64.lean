import ResourceMeter.Arithmetic

/-!
# Binary64 as the running number type

`Float` with its own operations is an `Arithmetic`, and has its own exponential function.
`Binary64.parts` takes the bits of a number apart; its value and its shortest decimal text are
computed from them.
-/

namespace ResourceMeter

/-- The bits of a binary64 number, taken apart. -/
inductive Binary64 where
  | notANumber
  | infinite (negative : Bool)
  /-- A number `significand * 2 ^ exponent`, with a significand of at most 53 bits and the exponent
  at least `-1074`. -/
  | finite (negative : Bool) (significand : Nat) (exponent : Int)
  deriving DecidableEq

namespace Binary64

/-- The parts of a number. A biased exponent of zero marks the subnormal numbers, which share the
exponent of the smallest normal ones and lack the implicit leading bit. -/
def parts (x : Float) : Binary64 :=
  let bits := x.toBits.toNat
  let negative := bits / Nat.pow 2 63 == 1
  let biased : Nat := bits / Nat.pow 2 52 % Nat.pow 2 11
  let fraction := bits % Nat.pow 2 52
  if biased = 2047 then
    if fraction = 0 then .infinite negative else .notANumber
  else if biased = 0 then .finite negative fraction (-1074)
  else .finite negative (Nat.pow 2 52 + fraction) ((biased : Int) - 1075)

/-- What the parts stand for. -/
def value : Binary64 → NumberValue
  | .notANumber => .notANumber
  | .infinite negative => .infinite negative
  | .finite negative significand exponent =>
    .finite negative
      (mkRat (significand * Nat.pow 2 exponent.toNat : Nat) (Nat.pow 2 (-exponent).toNat))

end Binary64

instance : Arithmetic Float where
  ofCount := Float.ofNat
  emptySum := -0.0
  sqrt := Float.sqrt
  value x := (Binary64.parts x).value

instance : Exponential Float where
  exp := Float.exp

end ResourceMeter
