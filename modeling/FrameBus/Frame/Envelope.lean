import FrameBus.Frame.Basic
import FrameBus.Hash.Murmur

/-!
# The gateway envelope

Eight bytes in front of a frame that travels between gateways, each number with its high byte
first:

    +----------------+--------+--------+---------
    | gateway hash   | source | dest   | inner ...
    +----------------+--------+--------+---------
      4 bytes          2        2

The hash covers everything behind it.
-/

namespace FrameBus

/-- Where a frame comes from and where it goes. -/
structure Addresses where
  source : PortId
  dest : PortId
deriving DecidableEq, Repr

namespace Envelope

/-! ## Algorithm -/

def size : Nat := 8

/-- The addresses of a frame that has an inner header, which are at the same place in both
headers. -/
def peek (f : Frame) : Except BusError Addresses :=
  if f.length < size then .error (.malformed "frame shorter than port header")
  else do
    let source ← f.peekU16 4
    let dest ← f.peekU16 6
    return ⟨⟨source⟩, ⟨dest⟩⟩

/-- Carries on with the frame of a step, or rejects the frame from before it. -/
def orReject (before : Frame) : Except BusError Frame → Except Rejected Frame
  | .ok f => .ok f
  | .error e => .error ⟨e, before⟩

/-- Writes the envelope. A frame without room for all of it keeps the fields that had room. -/
def wrap (f : Frame) (route : Addresses) : Except Rejected Frame := do
  let f₁ ← orReject f (f.pushU16 route.dest.raw)
  let f₂ ← orReject f₁ (f₁.pushU16 route.source.raw)
  orReject f₂ (f₂.pushU32 (Hash.gatewayHash f₂.window))

/-- Checks and strips the envelope. -/
def unwrap (f : Frame) : Except BusError (Addresses × Frame) :=
  if f.length < size then .error (.malformed "frame shorter than envelope")
  else do
    let expected ← f.peekU32 0
    let actual := Hash.gatewayHash (f.window.drop 4)
    if expected ≠ actual then .error (.integrity expected actual)
    else
      let f ← f.pullFront 4
      let (source, f) ← f.pullU16
      let (dest, f) ← f.pullU16
      return (⟨⟨source⟩, ⟨dest⟩⟩, f)

/-! ## Lemmas -/

theorem unwrap_of_short {f : Frame} (h : f.length < size) :
    unwrap f = .error (.malformed "frame shorter than envelope") := by
  simp [unwrap, h]

end Envelope

end FrameBus
