import FrameBus.Hash.Words

/-!
# The event hash

XXH32: inputs of 16 bytes and more go through four lanes, a word to each in turn; the words and
bytes that are left go into the merged state one by one; an avalanche ends it.
-/

namespace FrameBus.Hash.XX32

/-! ## Algorithm -/

def p1 : UInt32 := 0x9E3779B1

def p2 : UInt32 := 0x85EBCA77

def p3 : UInt32 := 0xC2B2AE3D

def p4 : UInt32 := 0x27D4EB2F

def p5 : UInt32 := 0x165667B1

/-- The four accumulators of the first stage. -/
structure Lanes where
  a : UInt32
  b : UInt32
  c : UInt32
  d : UInt32
deriving DecidableEq, Repr

def round (acc k : UInt32) : UInt32 := rotl (acc + k * p2) 13 * p1

def Lanes.start (seed : UInt32) : Lanes :=
  ⟨seed + p1 + p2, seed + p2, seed, seed - p1⟩

/-- Takes stripes of four words, one word to each lane; answers the words that are left. -/
def stripes : Lanes → List UInt32 → Lanes × List UInt32
  | l, w :: x :: y :: z :: rest =>
    stripes ⟨round l.a w, round l.b x, round l.c y, round l.d z⟩ rest
  | l, ws => (l, ws)

def Lanes.merge (l : Lanes) : UInt32 := rotl l.a 1 + rotl l.b 7 + rotl l.c 12 + rotl l.d 18

def takeWord (h k : UInt32) : UInt32 := rotl (h + k * p3) 17 * p4

def takeByte (h : UInt32) (b : UInt8) : UInt32 := rotl (h + b.toUInt32 * p5) 11 * p1

def avalanche (h : UInt32) : UInt32 :=
  let h := (h ^^^ (h >>> 15)) * p2
  let h := (h ^^^ (h >>> 13)) * p3
  h ^^^ (h >>> 16)

def hash (seed : UInt32) (bytes : List UInt8) : UInt32 :=
  let (ws, tail) := words bytes
  let (h, ws) :=
    if 4 ≤ ws.length then
      let (lanes, rest) := stripes (.start seed) ws
      (lanes.merge, rest)
    else (seed + p5, ws)
  let h := h + UInt32.ofNat bytes.length
  avalanche (tail.foldl takeByte (ws.foldl takeWord h))

end XX32

/-- The hash of the bytes that an event header covers: seed 0. -/
def eventHash (bytes : List UInt8) : UInt32 := XX32.hash 0 bytes

end FrameBus.Hash
