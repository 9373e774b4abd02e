import ResourceMeter.Binary64
import ResourceMeter.Decimal
import ResourceMeter.Decimal.Rounding

/-!
# The shortest decimal that reads back

`shortest m q tie` is, among the decimals that round to the binary64 number `m * 2 ^ q`, one with
the fewest digits, and of those the nearest to it. Two decimals at the same distance are told apart
by `tie`.

The numbers that round to `m * 2 ^ q` form an interval, to which its ends belong exactly when `m` is
even. On the grid of decimals with a given number of digits only the two neighbours of the number
itself need a test. All quantities are scaled by four, so that the ends are whole: the lower gap is
half the upper one when `m` is the least significand of its exponent.
-/

namespace ResourceMeter.Decimal

/-- The decimals that round to a binary64 number, in units in which the number is `4 * m`. -/
structure RoundingInterval where
  low : Nat
  high : Nat
  /-- The ends belong to the interval. -/
  closed : Bool

namespace RoundingInterval

/-- The interval around `m * 2 ^ q`. -/
def around (m : Nat) (q : Int) : RoundingInterval :=
  let narrow := m = Nat.pow 2 52 ∧ -1074 < q
  ⟨4 * m - (if narrow then 1 else 2), 4 * m + 2, m % 2 = 0⟩

/-- The quotient `n / d` lies in the interval. -/
def contains (interval : RoundingInterval) (n d : Nat) : Bool :=
  if interval.closed then interval.low * d ≤ n && n ≤ interval.high * d
  else interval.low * d < n && n < interval.high * d

end RoundingInterval

/-- The number of digits before the point of the quotient `n / d`; for a quotient below one, minus
the number of zeros that follow the point. -/
def integerDigits (n d : Nat) : Int :=
  if d ≤ n then (digits (n / d)).length
  else 1 - (digits ((d + n - 1) / n - 1)).length

/-- The decimal nearest to `m * 2 ^ q` on the grid of multiples of `10 ^ scale`, if it or else its
other neighbour rounds to that number. -/
def nearestOnGrid? (m : Nat) (q : Int) (scale : Int) (tie : Tie) : Option Decimal :=
  let interval := RoundingInterval.around m q
  -- a point `p` of the grid is `p * d / n` in the units of the interval
  let n := Nat.pow 2 (q - 2).toNat * Nat.pow 10 (-scale).toNat
  let d := Nat.pow 2 (2 - q).toNat * Nat.pow 10 scale.toNat
  let below := 4 * m * n / d
  let inside (p : Nat) : Bool := interval.contains (p * d) n
  let nearest := roundDiv (4 * m * n) d tie
  let other := if nearest = below then below + 1 else below
  if inside nearest then some ⟨nearest, scale⟩
  else if inside other then some ⟨other, scale⟩
  else none

/-- The shortest decimal that rounds to `m * 2 ^ q`, for a positive significand `m`. Seventeen
digits always suffice. -/
def shortest (m : Nat) (q : Int) (tie : Tie) : Decimal :=
  let leading := integerDigits (m * Nat.pow 2 q.toNat) (Nat.pow 2 (-q).toNat)
  let found := (List.range 17).findSome? fun (count : Nat) =>
    nearestOnGrid? m q (leading - (count + 1)) tie
  (found.getD ⟨0, 0⟩).strip 17

/-- The text of a binary64 number with the fewest digits that read back. -/
def shortestText (layout : Layout) (tie : Tie) (x : Float) : String :=
  match Binary64.parts x with
  | .notANumber => "NaN"
  | .infinite negative => sign negative ++ "inf"
  | .finite negative significand exponent =>
    layout.text negative (if significand = 0 then ⟨0, 0⟩ else shortest significand exponent tie)

end ResourceMeter.Decimal
