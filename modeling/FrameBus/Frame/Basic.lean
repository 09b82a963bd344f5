import FrameBus.Error.Bus
import FrameBus.Frame.Bytes

/-!
# Frames

A frame is one allocation of bytes with a window on it. Headers are written in front of the
window and stripped from its front, so a frame is the bytes before, in and after the window:

    +-----------+----------------+-----------+
    | head-room |     window     | tail-room |
    +-----------+----------------+-----------+

No operation changes the capacity or the tail, and one that fails leaves the frame alone, since it
answers no frame.
-/

namespace FrameBus

structure Frame where
  /-- bytes in front of the window, free to be written -/
  head : List UInt8
  window : List UInt8
  /-- bytes behind the window -/
  tail : List UInt8
deriving DecidableEq, Repr, Inhabited

/-- A failure, and the frame as the failing operation left it. -/
structure Rejected where
  error : BusError
  frame : Frame
deriving DecidableEq, Repr

namespace Frame

/-! ## Algorithm -/

/-- Room in front of a frame that has headers to come. -/
def defaultHeadRoom : Nat := 32

def defaultTailRoom : Nat := 0

/-- Sizes are 64-bit numbers, and a need beyond them counts as the greatest. -/
def sizeLimit : Nat := 0xFFFFFFFFFFFFFFFF

def zeroed (headRoom length tailRoom : Nat) : Frame :=
  ⟨List.replicate headRoom 0, List.replicate length 0, List.replicate tailRoom 0⟩

def withHeadRoom (headRoom : Nat) (bytes : List UInt8) : Frame :=
  ⟨List.replicate headRoom 0, bytes, []⟩

/-- A frame as it comes from a link: headers are only stripped, so no room is needed. -/
def ofBytes (bytes : List UInt8) : Frame := withHeadRoom 0 bytes

def headRoom (f : Frame) : Nat := f.head.length

def length (f : Frame) : Nat := f.window.length

def tailRoom (f : Frame) : Nat := f.tail.length

def capacity (f : Frame) : Nat := f.headRoom + f.length + f.tailRoom

def isEmpty (f : Frame) : Bool := f.window.isEmpty

/-- A copy of the window with the default room in front. -/
def duplicate (f : Frame) : Frame := withHeadRoom defaultHeadRoom f.window

/-- Writes over the first bytes of the window. -/
def overwrite (f : Frame) (bytes : List UInt8) : Except BusError Frame :=
  if f.length < bytes.length then .error (.noSpace bytes.length f.length)
  else .ok { f with window := bytes ++ f.window.drop bytes.length }

/-- Grows the window to the front by `bytes`. -/
def pushFront (f : Frame) (bytes : List UInt8) : Except BusError Frame :=
  if f.headRoom < bytes.length then .error (.noSpace bytes.length f.headRoom)
  else .ok { f with head := f.head.take (f.headRoom - bytes.length), window := bytes ++ f.window }

/-- Shrinks the window from the front; the bytes stay where they are. -/
def pullFront (f : Frame) (n : Nat) : Except BusError Frame :=
  if f.length < n then .error (.noSpace n f.length)
  else .ok { f with head := f.head ++ f.window.take n, window := f.window.drop n }

/-- The `n` bytes at an offset into the window. -/
def slice (f : Frame) (offset n : Nat) : Except BusError (List UInt8) :=
  if offset + n ≤ f.length then .ok ((f.window.drop offset).take n)
  else .error (.noSpace (min (offset + n) sizeLimit) f.length)

def pushU16 (f : Frame) (n : UInt16) : Except BusError Frame :=
  f.pushFront (Bytes.big 2 n.toNat)

def pushU32 (f : Frame) (n : UInt32) : Except BusError Frame :=
  f.pushFront (Bytes.big 4 n.toNat)

def peekU16 (f : Frame) (offset : Nat) : Except BusError UInt16 :=
  (f.slice offset 2).map fun bytes => UInt16.ofNat (Bytes.ofBig bytes)

def peekU32 (f : Frame) (offset : Nat) : Except BusError UInt32 :=
  (f.slice offset 4).map fun bytes => UInt32.ofNat (Bytes.ofBig bytes)

def pullU16 (f : Frame) : Except BusError (UInt16 × Frame) := do
  let n ← f.peekU16 0
  let f ← f.pullFront 2
  return (n, f)

def pullU32 (f : Frame) : Except BusError (UInt32 × Frame) := do
  let n ← f.peekU32 0
  let f ← f.pullFront 4
  return (n, f)

/-- The frame with a byte of its window changed; nothing outside of the window. -/
def modify? (f : Frame) (i : Nat) (change : UInt8 → UInt8) : Option Frame :=
  if i < f.length then some { f with window := f.window.modify i change } else none

/-- The sizes of the frame, for diagnostic texts. -/
def inspect (f : Frame) : String :=
  "Frame \x7b head_room: " ++ Numeral.decimal f.headRoom ++ ", len: " ++ Numeral.decimal f.length ++
    ", tail_room: " ++ Numeral.decimal f.tailRoom ++ " \x7d"

end Frame

namespace Rejected

/-- The failure with its parts named, for diagnostic texts. -/
def inspect (r : Rejected) : String :=
  "Undelivered \x7b error: " ++ r.error.inspect ++ ", frame: " ++ r.frame.inspect ++ " \x7d"

end Rejected

end FrameBus
