/-!
# Started units

Fees are charged for every unit that is started: `startedUnits count unit` is the quotient of two
words, rounded up. It is computed without a sum that could leave the words.
-/

namespace ResourceMeter

/-- The number of units of a given size that a count starts. -/
def startedUnits (count unit : UInt64) : UInt64 :=
  count / unit + (if count % unit = 0 then 0 else 1)

/-- Bytes in a unit of the fees for bytes. -/
def bytesPerFeeUnit : UInt64 :=
  1024

end ResourceMeter
