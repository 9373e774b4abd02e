/-!
# Rounding a quotient to a whole number

`roundDiv n d tie` is the whole number nearest to `n / d`. A quotient halfway between two whole
numbers goes where `tie` says.
-/

namespace ResourceMeter.Decimal

/-- Where a value halfway between two neighbours goes. -/
inductive Tie where
  | toEven
  | awayFromZero
  deriving DecidableEq

/-- The whole number nearest to `n / d`. -/
def roundDiv (n d : Nat) (tie : Tie) : Nat :=
  let quotient := n / d
  let remainder := n % d
  if 2 * remainder < d then quotient
  else if d < 2 * remainder then quotient + 1
  else match tie with
    | .toEven => quotient + quotient % 2
    | .awayFromZero => quotient + 1

/-- The result is within half a unit of the quotient. -/
theorem roundDiv_within_half (n d : Nat) (tie : Tie) (h : 0 < d) :
    2 * n ≤ (2 * roundDiv n d tie + 1) * d ∧ 2 * roundDiv n d tie * d ≤ 2 * n + d := by
  have split : d * (n / d) + n % d = n := Nat.div_add_mod n d
  have commuted : d * (n / d) = n / d * d := Nat.mul_comm _ _
  have small : n % d < d := Nat.mod_lt n h
  unfold roundDiv
  simp only
  split
  · constructor <;> grind
  · split
    · constructor <;> grind
    · cases tie with
      | toEven =>
        rcases Nat.mod_two_eq_zero_or_one (n / d) with even | odd
        · simp only [even]; constructor <;> grind
        · simp only [odd]; constructor <;> grind
      | awayFromZero => constructor <;> grind

end ResourceMeter.Decimal
