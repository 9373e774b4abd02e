import ResourceMeter.Json.Codec

/-!
# Variants

A value of a type with finitely many variants is written as the name of its variant, or as an object
with that name as its only member when the variant carries a value. A variant that carries nothing
may also be read from such an object, whose value is then `null`.
-/

namespace ResourceMeter.Json

/-- A variant of a type: its name, and how it is read from the bare name and from what it
carries. -/
structure Variant (σ : Type) where
  name : String
  bare : Except Fault σ
  carried : Outline → Except Fault σ

namespace Variant

variable {σ : Type}

/-- A variant that carries nothing. -/
def plain (name : String) (value : σ) : Variant σ where
  name
  bare := .ok value
  carried
    | .leaf .null => .ok value
    | outline => .error (.unexpected outline "unit")

/-- A variant that carries a value. -/
def carrying {α : Type} (name : String) (codec : Codec α) (wrap : α → σ) : Variant σ where
  name
  bare := .error (.wrongType .bareVariant "newtype variant")
  carried outline := (codec.decode outline).map wrap

/-- The variant of a name. -/
def find (variants : List (Variant σ)) (name : String) : Except Fault (Variant σ) :=
  match variants.find? (·.name == name) with
  | some variant => .ok variant
  | none => .error (.unknownVariant name (variants.map (·.name)))

/-- Reads a value of one of the variants. A member whose name is no string has no place here, so
it is a fault of form and its value is not looked at. -/
def decode (variants : List (Variant σ)) : Outline → Except Fault σ
  | .leaf (.string name) =>
    match find variants name with
    | .ok variant => variant.bare
    | .error fault => .error fault
  | .object ((.string name, outline) :: members) =>
    match find variants name with
    | .ok variant =>
      match variant.carried outline with
      | .ok value => if members.isEmpty then .ok value else .error .malformed
      | .error fault => .error fault
    | .error fault => .error fault
  | _ => .error .malformed

end Variant

end ResourceMeter.Json
