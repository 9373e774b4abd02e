import ResourceMeter.Json.Codec

/-!
# Records

A record type is described once, by its title and its fields in order; `Record.codec` writes its
values as objects and reads them from objects or from lists.

An object may have its fields in any order and further members of other names, which are skipped. A
list has the fields in the order of the description, and may end early where only optional fields
are left. Faults are met in the order of the text: a repeated field at its name, a missing one at
the end.
-/

namespace ResourceMeter.Json

/-- A field of a record: its name, and how to write it and to read it into a record. -/
structure Field (σ : Type) where
  name : String
  /-- A text that leaves the field out is refused. -/
  required : Bool
  encode : σ → Json
  decode : Outline → Except Fault (σ → σ)

/-- A required field with the given accessor and update. -/
def Field.of {σ α : Type} (name : String) (codec : Codec α) (get : σ → α)
    (set : α → σ → σ) : Field σ where
  name
  required := true
  encode record := codec.encode (get record)
  decode outline := (codec.decode outline).map set

/-- A field that keeps its blank value when a text leaves it out. -/
def Field.optional {σ α : Type} (name : String) (codec : Codec α) (get : σ → α)
    (set : α → σ → σ) : Field σ :=
  { Field.of name codec get set with required := false }

/-- The description of a record type. -/
structure Record (σ : Type) where
  title : String
  /-- The record before any field is read. -/
  blank : σ
  fields : List (Field σ)

namespace Record

variable {σ : Type}

/-- What a reader of the record wants to see. -/
def wanted (record : Record σ) : String :=
  "struct " ++ record.title

/-- What a reader of the record in list form wants to see. -/
def wantedLength (record : Record σ) : String :=
  let size := record.fields.length
  record.wanted ++ " with " ++ toString size ++ (if size = 1 then " element" else " elements")

/-- The field of a name. -/
def field? (record : Record σ) (name : String) : Option (Field σ) :=
  record.fields.find? (·.name == name)

/-- Reads the members of an object into a record; `seen` are the names of the fields read so far. -/
def decodeMembers (record : Record σ) :
    List (Token × Outline) → List String → σ → Except Fault σ
  | [], seen, value =>
    match record.fields.find? fun field => field.required && !seen.contains field.name with
    | some field => .error (.missingField field.name)
    | none => .ok value
  | (.string name, outline) :: members, seen, value =>
    match record.field? name with
    | none =>
      if outline.isWellFormed then record.decodeMembers members seen value else .error .malformed
    | some field =>
      if seen.contains name then .error (.duplicateField name)
      else match field.decode outline with
        | .ok set => record.decodeMembers members (name :: seen) (set value)
        | .error fault => .error fault
  | _ :: _, _, _ => .error .malformed

/-- Reads the items of a list into the fields in order; `index` items were read before. -/
def decodeItems (record : Record σ) :
    List (Field σ) → List Outline → Nat → σ → Except Fault σ
  | [], [], _, value => .ok value
  | [], _ :: _, _, _ => .error .malformed
  | field :: fields, [], index, value =>
    if field.required then .error (.wrongLength index record.wantedLength)
    else record.decodeItems fields [] (index + 1) value
  | field :: fields, item :: items, index, value =>
    match field.decode item with
    | .ok set => record.decodeItems fields items (index + 1) (set value)
    | .error fault => .error fault

/-- How the records are written and read. -/
def codec (record : Record σ) : Codec σ where
  encode value := .object (record.fields.map fun field => (field.name, field.encode value))
  decode
    | .object members => record.decodeMembers members [] record.blank
    | .list items => record.decodeItems record.fields items 0 record.blank
    | outline => .error (.unexpected outline record.wanted)

end Record

end ResourceMeter.Json
