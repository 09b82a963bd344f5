import FrameBus.Frame.Envelope
import FrameBus.Hash.XX32

/-!
# Event frames

Sixteen bytes in front of an event's payload, each number with its high byte first:

    +------------+--------+------+-------+--------+-------------
    | event hash | source | dest | event | length | payload ...
    +------------+--------+------+-------+--------+-------------
      4 bytes      2        2      4       4

The hash covers everything behind it. Bytes behind the declared length are no part of the payload.
-/

namespace FrameBus

structure EventHeader where
  source : PortId
  dest : PortId
  event : UInt32
  /-- length of the payload -/
  length : UInt32
deriving DecidableEq, Repr

namespace EventFrame

/-! ## Algorithm -/

def headerSize : Nat := 16

/-- A frame with the header and the payload, and room for an envelope in front. -/
def encode (source dest : PortId) (event : UInt32) (payload : List UInt8) :
    Except BusError Frame :=
  if 0x100000000 ≤ payload.length then
    .error (.invalidArgument ("payload of " ++ Numeral.decimal payload.length ++ " bytes"))
  else do
    let f := Frame.withHeadRoom Frame.defaultHeadRoom payload
    let f ← f.pushU32 (UInt32.ofNat payload.length)
    let f ← f.pushU32 event
    let f ← f.pushU16 dest.raw
    let f ← f.pushU16 source.raw
    f.pushU32 (Hash.eventHash f.window)

/-- The header's fields behind the hash, and the frame without the header. -/
def strip (f : Frame) : Except BusError (EventHeader × Frame) := do
  let f ← f.pullFront 4
  let (source, f) ← f.pullU16
  let (dest, f) ← f.pullU16
  let (event, f) ← f.pullU32
  let (length, f) ← f.pullU32
  return (⟨⟨source⟩, ⟨dest⟩, event, length⟩, f)

/-- Checks the header against its hash. -/
def check (f : Frame) : Except BusError Unit :=
  if f.length < headerSize then .error (.malformed "frame shorter than event header")
  else do
    let expected ← f.peekU32 0
    let actual := Hash.eventHash (f.window.drop 4)
    if expected ≠ actual then .error (.integrity expected actual) else return ()

/-- Checks and strips the header. A length beyond the frame is found after the header is gone. -/
def decode (f : Frame) : Except Rejected (EventHeader × Frame) :=
  match check f with
  | .error e => .error ⟨e, f⟩
  | .ok () =>
    match strip f with
    | .error e => .error ⟨e, f⟩
    | .ok (header, rest) =>
      if rest.length < header.length.toNat then
        .error ⟨.malformed "event length exceeds frame", rest⟩
      else .ok (header, rest)

/-- The payload of a decoded frame: as many bytes as the header declares. -/
def payload (header : EventHeader) (rest : Frame) : List UInt8 :=
  rest.window.take header.length.toNat

/-! ## Lemmas -/

theorem check_of_short {f : Frame} (h : f.length < headerSize) :
    check f = .error (.malformed "frame shorter than event header") := by
  simp [check, h]

end EventFrame

end FrameBus
