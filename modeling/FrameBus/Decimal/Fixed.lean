import FrameBus.Decimal.Binary64
import FrameBus.Numeral

/-!
# Numbers with fixed places

A number is written with a fixed count of digits after the point. The exact binary value is
rounded, a half to the even digit, so that `0.25` has the one-place form `0.2`.
-/

namespace FrameBus.Decimal

/-- The digits of `n`, the last `places` of them after a point. -/
def pointed (places n : Nat) : List Char :=
  let whole := Numeral.digits 10 (n / Nat.pow 10 places)
  if places = 0 then whole
  else whole ++ '.' :: Numeral.padLeft '0' places (Numeral.digits 10 (n % Nat.pow 10 places))

/-- `mantissa * 2 ^ exponent * 10 ^ places`, rounded. -/
def scaled (places mantissa : Nat) (exponent : Int) : Nat :=
  match exponent with
  | .ofNat e => mantissa * Nat.pow 2 e * Nat.pow 10 places
  | .negSucc e => roundDiv (mantissa * Nat.pow 10 places) (Nat.pow 2 (e + 1))

def signed (negative : Bool) (cs : List Char) : List Char := if negative then '-' :: cs else cs

/-- The number with `places` digits after the point; the sign of a zero is kept. -/
def fixed (places : Nat) (bits : UInt64) : String :=
  match Binary64.ofBits bits with
  | .nan => "NaN"
  | .infinite negative => String.ofList (signed negative "inf".toList)
  | .finite negative mantissa exponent =>
    String.ofList (signed negative (pointed places (scaled places mantissa exponent)))

end FrameBus.Decimal
