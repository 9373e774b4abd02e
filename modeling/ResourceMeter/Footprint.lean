import Std.Data.HashSet

/-!
# Footprints

A footprint lists the ledger keys that a transaction only reads and those that it also writes. All
keys have to be distinct; `Footprint.conflict?` finds the first one that is not, in one pass over
each list.
-/

namespace ResourceMeter

/-- The ledger keys that a transaction declares. -/
structure Footprint where
  readOnly : List String
  readWrite : List String
  deriving DecidableEq

/-- A ledger key that is declared inconsistently. -/
inductive FootprintConflict where
  /-- Listed more than once as read-only. -/
  | duplicateReadOnly (key : String)
  /-- Listed more than once as read-write. -/
  | duplicateReadWrite (key : String)
  /-- Declared both read-only and read-write. -/
  | overlap (key : String)
  deriving DecidableEq

namespace FootprintConflict

/-- The key in conflict. -/
def key : FootprintConflict → String
  | .duplicateReadOnly key => key
  | .duplicateReadWrite key => key
  | .overlap key => key

/-- What is wrong with the key, in words. -/
def reason : FootprintConflict → String
  | .duplicateReadOnly _ => "is listed more than once as read-only"
  | .duplicateReadWrite _ => "is listed more than once as read-write"
  | .overlap _ => "is declared both read-only and read-write"

/-- The conflict in words. -/
def message (conflict : FootprintConflict) : String :=
  "ledger key \x60" ++ conflict.key ++ "\x60 " ++ conflict.reason

end FootprintConflict

namespace Footprint

/-- Adds read-write keys to those seen so far, up to the first that was seen before. -/
def collectWritten :
    List String → Std.HashSet String → Except FootprintConflict (Std.HashSet String)
  | [], seen => .ok seen
  | key :: keys, seen =>
    if seen.contains key then .error (.duplicateReadWrite key)
    else collectWritten keys (seen.insert key)

/-- The first read-only key that is also written or was seen before. -/
def readConflict? (written : Std.HashSet String) :
    List String → Std.HashSet String → Option FootprintConflict
  | [], _ => none
  | key :: keys, seen =>
    if written.contains key then some (.overlap key)
    else if seen.contains key then some (.duplicateReadOnly key)
    else readConflict? written keys (seen.insert key)

/-- The first inconsistent key; a repeated read-write key comes before any read-only one. -/
def conflict? (footprint : Footprint) : Option FootprintConflict :=
  match collectWritten footprint.readWrite ∅ with
  | .error conflict => some conflict
  | .ok written => readConflict? written footprint.readOnly ∅

end Footprint

end ResourceMeter
