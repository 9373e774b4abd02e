/-!
# The numbers of the model

Costs, scores and checks are written once, over any type with the operations of `Arithmetic`: the
running program uses binary64 (`ResourceMeter.Binary64`), and a statement about exact arithmetic
uses another instance of the same definitions.

The exponential function is a class of its own, `Exponential`: its last digits are up to the library
that computes it, so a statement about binary64 may take any function for it.

`NumberValue` says what a number stands for; rounding to whole numbers and every number text are
functions of it, so they need no operation of their own.
-/

namespace ResourceMeter

/-- What a number stands for: nothing at all, an infinity, or a sign and a magnitude. Zero keeps
its sign. -/
inductive NumberValue where
  | notANumber
  | infinite (negative : Bool)
  | finite (negative : Bool) (magnitude : Rat)
  deriving DecidableEq

/-- The number operations that costs, scores and checks are written over. -/
class Arithmetic (α : Type) extends Add α, Sub α, Mul α, Div α, OfScientific α, LT α, LE α where
  /-- The strict order is decidable. -/
  [decidableLT : DecidableLT α]
  /-- The order is decidable. -/
  [decidableLE : DecidableLE α]
  /-- The number that stands for a count. -/
  ofCount : Nat → α
  /-- The sum of no numbers, to which a sum adds its terms from the left. -/
  emptySum : α
  /-- The square root. -/
  sqrt : α → α
  /-- What a number stands for. -/
  value : α → NumberValue

/-- The exponential function, which the memory penalty is written over. -/
class Exponential (α : Type) where
  exp : α → α

attribute [reducible, instance] Arithmetic.decidableLT Arithmetic.decidableLE

namespace Arithmetic

variable {α : Type} [Arithmetic α]

/-- Neither an infinity nor no number at all. -/
def isFinite (x : α) : Bool :=
  match value x with
  | .finite _ _ => true
  | .infinite _ => false
  | .notANumber => false

/-- The sum of the terms, added from the left. -/
def sum (terms : List α) : α :=
  terms.foldl (· + ·) emptySum

/-- The number moved into the range from `low` to `high`; what compares with neither stays. -/
def clamp (x low high : α) : α :=
  if x < low then low else if high < x then high else x

/-- The distance from zero. -/
def magnitude (x : α) : α :=
  if x < 0.0 then 0.0 - x else x

end Arithmetic

end ResourceMeter
