import FrameBus.Decimal.Fixed

/-!
# Shortest decimals

The fewest digits that read back as the same number, the nearest of those, written without an
exponent. A number is read back when it lies between the midpoints to its neighbours; the
midpoints belong to a number with an even mantissa.

All quantities are multiples of one unit: with `e` the exponent of the number, the unit is
`2 ^ (e - 2)`, so that the number, its midpoints and the decimal grids are compared in whole
numbers.
-/

namespace FrameBus.Decimal

/-- The numbers that read back as one: `num / den` from `low` to `high`, with the ends or not. -/
structure Window where
  low : Nat
  mid : Nat
  high : Nat
  ends : Bool

/-- The window of `mantissa * 2 ^ exponent` in quarters of the last place. -/
def Window.around (mantissa : Nat) (exponent : Int) : Window :=
  let narrow := mantissa = 0x10000000000000 ∧ -1074 < exponent
  { low := 4 * mantissa - (if narrow then 1 else 2)
    mid := 4 * mantissa
    high := 4 * mantissa + 2
    ends := mantissa % 2 == 0 }

/-- `10 ^ k` and the quarter `2 ^ (exponent - 2)` as a fraction over one denominator. -/
def gridOver (exponent k : Int) : Nat × Nat :=
  let q := exponent - 2
  (Nat.pow 10 k.toNat * Nat.pow 2 (-q).toNat, Nat.pow 10 (-k).toNat * Nat.pow 2 q.toNat)

/-- The multiple of `10 ^ k` nearest to the number, if one lies in the window; of two as near the
greater. -/
def onGrid? (w : Window) (exponent k : Int) : Option Nat :=
  let (step, quarter) := gridOver exponent k
  let inside (n : Nat) : Bool :=
    let v := n * step
    let lo := w.low * quarter
    let hi := w.high * quarter
    if w.ends then decide (lo ≤ v) && decide (v ≤ hi) else decide (lo < v) && decide (v < hi)
  let below := w.mid * quarter / step
  let distance (n : Nat) : Nat :=
    if n * step ≤ w.mid * quarter then w.mid * quarter - n * step else n * step - w.mid * quarter
  match inside below && below != 0, inside (below + 1) with
  | true, true => some (if distance below < distance (below + 1) then below else below + 1)
  | true, false => some below
  | false, true => some (below + 1)
  | false, false => none

/-- Tries the grids from `10 ^ k` downward. -/
def firstGrid (w : Window) (exponent : Int) : (steps : Nat) → Int → Nat × Int
  | 0, k => (w.mid, k)
  | steps + 1, k =>
    match onGrid? w exponent k with
    | some n => (n, k)
    | none => firstGrid w exponent steps (k - 1)

/-- `n * 10 ^ k` without an exponent. -/
def positional (n : Nat) (k : Int) : List Char :=
  if 0 ≤ k then Numeral.digits 10 (n * Nat.pow 10 k.toNat) else pointed (-k).toNat n

/-- The shortest text of the number, with a point also when it is whole. -/
def shortest (bits : UInt64) : String :=
  match Binary64.ofBits bits with
  | .nan => "NaN"
  | .infinite negative => String.ofList (signed negative "inf".toList)
  | .finite negative mantissa exponent =>
    let text :=
      if mantissa = 0 then ['0']
      else
        let (n, k) := firstGrid (.around mantissa exponent) exponent 660 309
        positional n k
    let text := if text.contains '.' then text else text ++ ['.', '0']
    String.ofList (signed negative text)

end FrameBus.Decimal
