import ResourceMeter.Binary64

/-!
# Written numbers

A `Numeral` is a number as JSON writes it: a sign, digits, and perhaps a fraction and an exponent.
`Numeral.kind` sorts numerals into counts, negative integers and binary64 numbers: a numeral without
fraction and exponent is an integer as long as 64 bits hold it, and every other one is read as a
binary64 number.

The binary64 reading takes as many leading digits as fit into 64 bits, drops the others, and scales
the result by a power of ten. A number of up to fifteen digits and a moderate exponent is read
exactly as rounding asks; beyond that the result may be off in its last digit.
-/

namespace ResourceMeter.Decimal

/-- A written number. The digits are their values; `fraction` is empty when no point is written. -/
structure Numeral where
  negative : Bool
  whole : List Nat
  fraction : List Nat
  exponent : Option Int
  deriving DecidableEq

namespace Numeral

/-- The first count that 64 bits do not hold. -/
def wordSize : Nat :=
  UInt64.size

/-- The number that the digits write in base ten. -/
def ofDigits (digits : List Nat) : Nat :=
  digits.foldl (fun n digit => 10 * n + digit) 0

/-- Appends digits to `n` while the result fits into 64 bits; also the number of digits left. -/
def absorb (n : Nat) : List Nat → Nat × Nat
  | [] => (n, 0)
  | digit :: digits =>
    if 10 * n + digit < wordSize then absorb (10 * n + digit) digits else (n, digits.length + 1)

/-- A power of ten as a binary64 number. -/
def power (n : Nat) : Float :=
  Float.ofScientific 1 false n

/-- The number `significand * 10 ^ scale`, by one multiplication or at most two divisions; nothing
when it is too large. -/
def scaled? (significand : Nat) (scale : Int) : Option Float :=
  let x := Float.ofNat significand
  if 0 ≤ scale then
    if scale ≤ 308 then
      let y := x * power scale.toNat
      if y.isFinite then some y else none
    else if significand = 0 then some x else none
  else if -308 ≤ scale then some (x / power (-scale).toNat)
  else if -616 ≤ scale then some (x / power 308 / power (-scale - 308).toNat)
  else some 0.0

/-- The binary64 reading; nothing when the number is too large. -/
def float? (n : Numeral) : Option Float :=
  let (whole, dropped) := absorb 0 n.whole
  let (significand, ignored) := absorb whole n.fraction
  let scale : Int := n.exponent.getD 0 + dropped - (n.fraction.length - ignored : Nat)
  (scaled? significand scale).map fun x => if n.negative then -x else x

/-- What a numeral is. -/
inductive Kind where
  | count (n : Nat)
  /-- The integer `-n`, with `n` positive. -/
  | negative (n : Nat)
  | float (x : Float)
  /-- Larger than every binary64 number. -/
  | outOfRange

/-- Sorts a numeral: an integer has neither fraction nor exponent and fits into 64 bits, unsigned or
signed; a negative zero is no integer. -/
def kind (n : Numeral) : Kind :=
  let value := ofDigits n.whole
  if n.fraction.isEmpty ∧ n.exponent.isNone ∧ n.negative = false ∧ value < wordSize then
    .count value
  else if n.fraction.isEmpty ∧ n.exponent.isNone ∧ n.negative = true ∧ 0 < value ∧
      value ≤ wordSize / 2 then .negative value
  else match n.float? with
    | some x => .float x
    | none => .outOfRange

end Numeral

end ResourceMeter.Decimal
