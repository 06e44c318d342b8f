import PredictionJobs.Binary64.Basic

/-! # The interchange format

A number as a word of 64 bits: the sign, eleven bits of exponent and 52 bits of fraction. Without
the sign the word counts the finite magnitudes in ascending order, so that it is the spacing
exponent times `2 ^ 52` plus the significant bits.
-/

namespace PredictionJobs.Binary64

private def signBit : Nat := Nat.pow 2 63

private def fractionSize : Nat := Nat.pow 2 52

/-- The exponent field of infinities and of what is not a number. -/
private def topExponent : Nat := 2047

/-- The word of a number. What is not a number has the word of a quiet one. -/
def toBits : Binary64 → Nat
  | .finite negative units _ =>
    let exponent := spacingExponent units
    (if negative then signBit else 0) + exponent * fractionSize + units / Nat.pow 2 exponent
  | .infinite negative => (if negative then signBit else 0) + topExponent * fractionSize
  | .nan => topExponent * fractionSize + fractionSize / 2

def ofBits (word : Nat) : Binary64 :=
  let negative := word / signBit % 2 == 1
  let exponent := word % signBit / fractionSize
  let fraction := word % fractionSize
  if exponent = topExponent then
    if fraction = 0 then .infinite negative else .nan
  else if exponent = 0 then ofUnits negative fraction
  else ofUnits negative ((fractionSize + fraction) * Nat.pow 2 (exponent - 1))

end PredictionJobs.Binary64
