/-!
# Whole numbers as text

Reading a number in a radix from left to right, and the three ways in which that fails.
A single `+` may stand in front. A character that is no digit is reported where it stands, a
value beyond the limit at the digit that exceeds it, whichever comes first.

    readDigits radix limit 0 (digits of n) = ok n   for n ≤ limit
-/

namespace FrameBus

inductive NumeralError where
  | empty
  | invalidDigit
  | tooLarge
  | tooSmall
deriving DecidableEq, Repr

namespace NumeralError

def message : NumeralError → String
  | .empty => "cannot parse integer from empty string"
  | .invalidDigit => "invalid digit found in string"
  | .tooLarge => "number too large to fit in target type"
  | .tooSmall => "number too small to fit in target type"

end NumeralError

namespace Numeral

/-! ## Algorithm -/

/-- The value of a digit, letters counting from ten in either case; 36 for what is no digit. -/
def digitValue (c : Char) : Nat :=
  if '0' ≤ c ∧ c ≤ '9' then c.toNat - '0'.toNat
  else if 'a' ≤ c ∧ c ≤ 'z' then c.toNat - 'a'.toNat + 10
  else if 'A' ≤ c ∧ c ≤ 'Z' then c.toNat - 'A'.toNat + 10
  else 36

/-- The value of a digit of a radix up to 36. -/
def digit? (radix : Nat) (c : Char) : Option Nat :=
  if digitValue c < radix then some (digitValue c) else none

/-- Continues a number read so far; fails at the first character that cannot extend it. -/
def readDigits (radix limit : Nat) : Nat → List Char → Except NumeralError Nat
  | value, [] => .ok value
  | value, c :: cs =>
    match digit? radix c with
    | none => .error .invalidDigit
    | some d =>
      if value * radix + d ≤ limit then readDigits radix limit (value * radix + d) cs
      else .error .tooLarge

/-- A number up to `limit`, with an optional `+` in front. -/
def read (radix limit : Nat) : List Char → Except NumeralError Nat
  | [] => .error .empty
  | ['+'] => .error .invalidDigit
  | '+' :: cs => readDigits radix limit 0 cs
  | cs => readDigits radix limit 0 cs

/-- A number from `-bound - 1` to `bound`, with an optional sign in front. -/
def readSigned (radix bound : Nat) : List Char → Except NumeralError Int
  | ['-'] => .error .invalidDigit
  | '-' :: cs =>
    match readDigits radix (bound + 1) 0 cs with
    | .ok n => .ok (-(n : Int))
    | .error .tooLarge => .error .tooSmall
    | .error e => .error e
  | cs => (read radix bound cs).map Int.ofNat

/-- The digits of `n` in `radix`, letters in lower case. -/
def digits (radix n : Nat) : List Char := Nat.toDigits radix n

/-- `text` with copies of `fill` in front up to the width. -/
def padLeft (fill : Char) (width : Nat) (text : List Char) : List Char :=
  List.replicate (width - text.length) fill ++ text

def decimal (n : Nat) : String := String.ofList (digits 10 n)

/-- The hexadecimal digits of `n`, at least `width` of them. -/
def hex (width n : Nat) : String := String.ofList (padLeft '0' width (digits 16 n))

/-- The two digits of every byte, one byte after the other. -/
def hexBytes (bytes : List UInt8) : List Char :=
  bytes.flatMap fun b => padLeft '0' 2 (digits 16 b.toNat)

/-- Bytes written as pairs of hexadecimal digits. -/
def readHexBytes? : List Char → Option (List UInt8)
  | [] => some []
  | [_] => none
  | a :: b :: cs => do
    let high ← digit? 16 a
    let low ← digit? 16 b
    let rest ← readHexBytes? cs
    return UInt8.ofNat (high * 16 + low) :: rest

end Numeral

end FrameBus
