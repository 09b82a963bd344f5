/-!
# The exact value of a binary64 number

The 64 bits of a number say whether it is a NaN, an infinity, or `±mantissa * 2 ^ exponent`.
-/

namespace FrameBus.Decimal

/-- What a binary64 number stands for. -/
inductive Binary64 where
  | nan
  | infinite (negative : Bool)
  | finite (negative : Bool) (mantissa : Nat) (exponent : Int)
deriving DecidableEq, Repr

namespace Binary64

/-- Subnormal numbers have biased exponent 0 and no hidden bit. -/
def ofBits (bits : UInt64) : Binary64 :=
  let n := bits.toNat
  let negative := decide (0x8000000000000000 ≤ n)
  let biased : Nat := n / 0x10000000000000 % 2048
  let fraction := n % 0x10000000000000
  if biased = 2047 then
    if fraction = 0 then .infinite negative else .nan
  else if biased = 0 then .finite negative fraction (-1074)
  else .finite negative (0x10000000000000 + fraction) ((biased : Int) - 1075)

end Binary64

/-- The quotient rounded to the nearest natural number, an exact half to the even one. -/
def roundDiv (num den : Nat) : Nat :=
  let q := num / den
  let r := num % den
  if 2 * r < den then q
  else if den < 2 * r then q + 1
  else if q % 2 = 0 then q else q + 1

end FrameBus.Decimal
