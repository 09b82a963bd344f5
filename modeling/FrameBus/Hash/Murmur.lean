import FrameBus.Hash.Words

/-!
# The gateway hash

MurmurHash3 for 32 bits: every word is scrambled and mixed into the state, the tail is scrambled
as one short word, and the state is finished with the length. Every step is injective in the word
it takes, which is what makes a change of one word visible.
-/

namespace FrameBus.Hash.Murmur

/-! ## Algorithm -/

def scramble (k : UInt32) : UInt32 := rotl (k * 0xCC9E2D51) 15 * 0x1B873593

def mix (h k : UInt32) : UInt32 := rotl (h ^^^ scramble k) 13 * 5 + 0xE6546B64

/-- The tail as a word with zero bytes on top. -/
def tailWord : List UInt8 → UInt32
  | [a] => word a 0 0 0
  | [a, b] => word a b 0 0
  | [a, b, c] => word a b c 0
  | _ => 0

def finish (h : UInt32) : UInt32 :=
  let h := (h ^^^ (h >>> 16)) * 0x85EBCA6B
  let h := (h ^^^ (h >>> 13)) * 0xC2B2AE35
  h ^^^ (h >>> 16)

def hash (seed : UInt32) (bytes : List UInt8) : UInt32 :=
  let (ws, tail) := words bytes
  finish ((ws.foldl mix seed ^^^ scramble (tailWord tail)) ^^^ UInt32.ofNat bytes.length)

end Murmur

/-- The hash of the bytes that a gateway envelope covers: seed 1. -/
def gatewayHash (bytes : List UInt8) : UInt32 := Murmur.hash 1 bytes

end FrameBus.Hash
