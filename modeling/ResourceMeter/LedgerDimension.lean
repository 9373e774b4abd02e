/-!
# The metered ledger quantities

Ledger access is metered in five dimensions, each with its own limit and rate. `LedgerVector` holds
one value for each of them.
-/

namespace ResourceMeter

/-- One of the metered ledger quantities. -/
inductive LedgerDimension where
  | readEntries
  | readBytes
  | writeEntries
  | writeBytes
  | bandwidth
  deriving DecidableEq

namespace LedgerDimension

/-- All dimensions, in reporting order. -/
def all : List LedgerDimension :=
  [.readEntries, .readBytes, .writeEntries, .writeBytes, .bandwidth]

/-- The place in the reporting order. -/
def index : LedgerDimension → Fin 5
  | .readEntries => 0
  | .readBytes => 1
  | .writeEntries => 2
  | .writeBytes => 3
  | .bandwidth => 4

/-- The name in data. -/
def key : LedgerDimension → String
  | .readEntries => "read_entries"
  | .readBytes => "read_bytes"
  | .writeEntries => "write_entries"
  | .writeBytes => "write_bytes"
  | .bandwidth => "bandwidth"

/-- The name in hints. -/
def label : LedgerDimension → String
  | .readEntries => "read entry count"
  | .readBytes => "read byte volume"
  | .writeEntries => "write entry count"
  | .writeBytes => "write byte volume"
  | .bandwidth => "transaction size"

/-- Dimensions are compared by their places. -/
instance : LE LedgerDimension where
  le d e := d.index ≤ e.index

instance : DecidableLE LedgerDimension :=
  fun d e => inferInstanceAs (Decidable (d.index ≤ e.index))

/-- The list of all dimensions leaves none out. -/
theorem mem_all (dimension : LedgerDimension) : dimension ∈ all := by
  cases dimension <;> decide

end LedgerDimension

/-- One value for each ledger dimension. -/
structure LedgerVector (α : Type) where
  readEntries : α
  readBytes : α
  writeEntries : α
  writeBytes : α
  bandwidth : α
  deriving DecidableEq

namespace LedgerVector

variable {α : Type}

/-- The value of a dimension. -/
def get (v : LedgerVector α) : LedgerDimension → α
  | .readEntries => v.readEntries
  | .readBytes => v.readBytes
  | .writeEntries => v.writeEntries
  | .writeBytes => v.writeBytes
  | .bandwidth => v.bandwidth

/-- The vector with a given value for each dimension. -/
def ofFn (f : LedgerDimension → α) : LedgerVector α :=
  ⟨f .readEntries, f .readBytes, f .writeEntries, f .writeBytes, f .bandwidth⟩

/-- The values in reporting order. -/
def toList (v : LedgerVector α) : List α :=
  LedgerDimension.all.map v.get

@[simp] theorem get_ofFn (f : LedgerDimension → α) (dimension : LedgerDimension) :
    (ofFn f).get dimension = f dimension := by
  cases dimension <;> rfl

end LedgerVector

end ResourceMeter
