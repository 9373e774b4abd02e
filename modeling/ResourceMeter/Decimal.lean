/-!
# Decimal numbers and their layouts

A `Decimal` is a significand and a power of ten. A `Layout` says how one is written: where
positional notation ends, whether an integral value keeps its point, and how the exponent of
scientific notation is signed.
-/

namespace ResourceMeter

/-- The number `significand * 10 ^ scale`. -/
structure Decimal where
  significand : Nat
  scale : Int
  deriving DecidableEq

namespace Decimal

/-- The digits of a natural number in base ten. -/
def digits (n : Nat) : String :=
  toString n

/-- A run of zeros. -/
def zeros (n : Nat) : String :=
  String.ofList (List.replicate n '0')

/-- The sign in front of a number text. -/
def sign (negative : Bool) : String :=
  if negative then "-" else ""

/-- Where the decimal point stands, counted in digits from the front of the significand. -/
def point (d : Decimal) : Int :=
  (digits d.significand).length + d.scale

/-- Drops `count` trailing zeros of the significand, or as many as there are. -/
def strip : Nat → Decimal → Decimal
  | 0, d => d
  | count + 1, d =>
    if d.significand % 10 = 0 then strip count ⟨d.significand / 10, d.scale + 1⟩ else d

/-- How a decimal number is written. -/
structure Layout where
  /-- The least and the greatest place of the decimal point in positional notation; without them
  every number is positional. -/
  positional : Option (Int × Int)
  /-- An integral value is written with `.0`. -/
  keepsPoint : Bool
  /-- A positive exponent is written with a plus sign. -/
  plusSign : Bool

namespace Layout

/-- Positional notation: the digits with the point among them, before them or behind them. -/
def positionalText (layout : Layout) (d : Decimal) : String :=
  let text := digits d.significand
  let place := d.point
  if place ≤ 0 then "0." ++ zeros (-place).toNat ++ text
  else if (text.length : Int) ≤ place then
    text ++ zeros (place.toNat - text.length) ++ (if layout.keepsPoint then ".0" else "")
  else
    String.ofList (text.toList.take place.toNat) ++ "." ++
      String.ofList (text.toList.drop place.toNat)

/-- Scientific notation: one digit before the point, and the power of ten behind the mark. -/
def scientificText (layout : Layout) (d : Decimal) : String :=
  let text := (digits d.significand).toList
  let exponent := d.point - 1
  let fraction := if text.length ≤ 1 then "" else "." ++ String.ofList (text.drop 1)
  let mark := if exponent < 0 then "e-" else if layout.plusSign then "e+" else "e"
  String.ofList (text.take 1) ++ fraction ++ mark ++ digits exponent.natAbs

/-- The text of a number; zero is positional in every layout. -/
def text (layout : Layout) (negative : Bool) (d : Decimal) : String :=
  sign negative ++
    if d.significand = 0 then (if layout.keepsPoint then "0.0" else "0")
    else match layout.positional with
      | none => layout.positionalText d
      | some (least, greatest) =>
        if least ≤ d.point ∧ d.point ≤ greatest then layout.positionalText d
        else layout.scientificText d

end Layout

end Decimal

end ResourceMeter
