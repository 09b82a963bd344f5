/-!
# Bytes as 32-bit words

A byte string is a run of little-endian words followed by at most three bytes.
-/

namespace FrameBus.Hash

/-! ## Algorithm -/

/-- The word whose lowest byte comes first. -/
def word (a b c d : UInt8) : UInt32 :=
  a.toUInt32 ||| (b.toUInt32 <<< 8) ||| (c.toUInt32 <<< 16) ||| (d.toUInt32 <<< 24)

/-- The full words of a byte string, and the bytes after the last of them. -/
def words : List UInt8 → List UInt32 × List UInt8
  | a :: b :: c :: d :: rest =>
    let (ws, tail) := words rest
    (word a b c d :: ws, tail)
  | tail => ([], tail)

/-- Rotation to the left by a fixed number of bits between 1 and 31. -/
def rotl (x : UInt32) (n : UInt32) : UInt32 := (x <<< n) ||| (x >>> (32 - n))

end FrameBus.Hash
