import ResourceMeter.Json.Fault

/-!
# Reading and writing typed values

A `Codec` writes the values of a type as JSON and reads them back from an outline. The codecs here
are those of the plain types; records and variants are built from them in
`ResourceMeter.Json.Record` and `ResourceMeter.Json.Variant`.
-/

namespace ResourceMeter.Json

/-- How values of a type are written and read. -/
structure Codec (α : Type) where
  encode : α → Json
  decode : Outline → Except Fault α

namespace Codec

/-- Reads a value from a whole text, behind which only blanks may follow. -/
def read {α : Type} (codec : Codec α) (text : String) : Except Fault α :=
  let document := Document.ofText text
  match codec.decode document.root with
  | .ok value => if document.trailing then .error .malformed else .ok value
  | .error fault => .error fault

/-- Reads a count below `limit`, and otherwise says that `wanted` was wanted. -/
def decodeCount (limit : Nat) (wanted : String) : Outline → Except Fault Nat
  | .leaf (.number n) =>
    match n.kind with
    | .count k => if k < limit then .ok k else .error (.wrongValue (.integer k) wanted)
    | .negative k => .error (.wrongValue (.integer (-k)) wanted)
    | .float x => .error (.wrongType (.float x) wanted)
    | .outOfRange => .error .malformed
  | outline => .error (.unexpected outline wanted)

/-- Counts of 64 bits. -/
def uint64 : Codec UInt64 where
  encode n := .count n.toNat
  decode outline := (decodeCount UInt64.size "u64" outline).map UInt64.ofNat

/-- Counts of 8 bits. -/
def uint8 : Codec UInt8 where
  encode n := .count n.toNat
  decode outline := (decodeCount UInt8.size "u8" outline).map UInt8.ofNat

/-- Binary64 numbers; an integer is read as the number nearest to it. -/
def float : Codec Float where
  encode := .float
  decode
    | .leaf (.number n) =>
      match n.kind with
      | .count k => .ok (Float.ofNat k)
      | .negative k => .ok (-Float.ofNat k)
      | .float x => .ok x
      | .outOfRange => .error .malformed
    | outline => .error (.unexpected outline "f64")

/-- Strings. -/
def string : Codec String where
  encode := .string
  decode
    | .leaf (.string s) => .ok s
    | outline => .error (.unexpected outline "a string")

/-- Lists, read from the front. -/
def list {α : Type} (codec : Codec α) : Codec (List α) where
  encode items := .list (items.map codec.encode)
  decode
    | .list items => items.mapM codec.decode
    | outline => .error (.unexpected outline "a sequence")

/-- Values of a type with a rule: `check` accepts what `codec` reads or says why not. -/
def checked {α β : Type} (codec : Codec β) (check : β → Except String α) (uncheck : α → β) :
    Codec α where
  encode value := codec.encode (uncheck value)
  decode outline :=
    match codec.decode outline with
    | .ok value =>
      match check value with
      | .ok value => .ok value
      | .error reason => .error (.rejected reason)
    | .error fault => .error fault

end Codec

end ResourceMeter.Json
