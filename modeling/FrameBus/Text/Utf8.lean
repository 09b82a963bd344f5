/-!
# UTF-8

The bytes of a text, and the text of bytes. A character has one form, the shortest; surrogates and
numbers beyond the last code point have none, so reading takes exactly what writing gives.
-/

namespace FrameBus.Text.Utf8

/-- A byte that continues a character, with its low six bits on top of `high`. -/
def lead (high n : Nat) : UInt8 := UInt8.ofNat (high + n)

def encodeChar (c : Char) : List UInt8 :=
  let n := c.toNat
  if n < 0x80 then [lead 0 n]
  else if n < 0x800 then [lead 0xC0 (n / 64), lead 0x80 (n % 64)]
  else if n < 0x10000 then
    [lead 0xE0 (n / 4096), lead 0x80 (n / 64 % 64), lead 0x80 (n % 64)]
  else
    [lead 0xF0 (n / 262144), lead 0x80 (n / 4096 % 64), lead 0x80 (n / 64 % 64),
      lead 0x80 (n % 64)]

def encode (cs : List Char) : List UInt8 := cs.flatMap encodeChar

/-- The low six bits of a byte that continues a character. -/
def continued? (b : UInt8) : Option Nat :=
  if 0x80 ≤ b.toNat ∧ b.toNat < 0xC0 then some (b.toNat - 0x80) else none

/-- The character of a code point between two bounds. -/
def scalar? (low high n : Nat) : Option Char :=
  if low ≤ n ∧ n < high ∧ ¬(0xD800 ≤ n ∧ n < 0xE000) then some (Char.ofNat n) else none

/-- The character at the front of some bytes, and the bytes behind it. -/
def decodeOne? : List UInt8 → Option (Char × List UInt8)
  | [] => none
  | a :: rest =>
    if a.toNat < 0x80 then (scalar? 0 0x80 a.toNat).map fun c => (c, rest)
    else if a.toNat < 0xC0 then none
    else if a.toNat < 0xE0 then
      match rest with
      | b :: rest => do
        let y ← continued? b
        let c ← scalar? 0x80 0x800 ((a.toNat - 0xC0) * 64 + y)
        return (c, rest)
      | _ => none
    else if a.toNat < 0xF0 then
      match rest with
      | b :: c :: rest => do
        let x ← continued? b
        let y ← continued? c
        let c ← scalar? 0x800 0x10000 ((a.toNat - 0xE0) * 4096 + x * 64 + y)
        return (c, rest)
      | _ => none
    else
      match rest with
      | b :: c :: d :: rest => do
        let w ← continued? b
        let x ← continued? c
        let y ← continued? d
        let c ← scalar? 0x10000 0x110000 ((a.toNat - 0xF0) * 262144 + w * 4096 + x * 64 + y)
        return (c, rest)
      | _ => none

/-- The text that some bytes are the form of; one character takes at least one byte of `fuel`. -/
def decodeFrom? : (fuel : Nat) → List UInt8 → Option (List Char)
  | _, [] => some []
  | 0, _ => none
  | fuel + 1, bytes => do
    let (c, rest) ← decodeOne? bytes
    let cs ← decodeFrom? fuel rest
    return c :: cs

def decode? (bytes : List UInt8) : Option (List Char) := decodeFrom? bytes.length bytes

end FrameBus.Text.Utf8
