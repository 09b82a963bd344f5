import FrameBus.Decimal.Fixed

/-!
# Whole numbers over a power of two

A whole number as a binary64 value, and such a value over a power of two with fixed places.
-/

namespace FrameBus.Decimal

/-- Mantissa and exponent of the binary64 value nearest to a whole number below `2 ^ 64`. -/
def nearest (n : Nat) : Nat × Int :=
  if n < 0x20000000000000 then (n, 0)
  else
    let shift := n.log2 - 52
    (roundDiv n (Nat.pow 2 shift), shift)

/-- A whole number over `2 ^ shift`, with fixed places. -/
def fixedShifted (places n shift : Nat) : String :=
  let (mantissa, exponent) := nearest n
  String.ofList (pointed places (scaled places mantissa (exponent - shift)))

end FrameBus.Decimal
