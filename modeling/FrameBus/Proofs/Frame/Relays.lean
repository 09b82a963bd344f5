import FrameBus.Gateway.Forwarding
import FrameBus.Proofs.Frame.Wire

/-!
# Over any number of gateways

An event is encoded, put in an envelope and sent; each gateway on the way opens the envelope of the
bytes that came, and puts the frame in an envelope for the same addresses again. The header of the
event, the envelope of the sender and those of the gateways are all written in front of what is
there, so each stage lives on the room that an earlier one left or made:

    encode      leaves 16 of 32 bytes        (encode_eq)
    duplicate   makes 32 bytes again         (headRoom_duplicate)
    wrap        takes 8 bytes                (wrap_eq)
    unwrap      of bytes without any room in front leaves the 8 that it stripped  (unwrap_sealed)

An envelope is the same bytes each time (`again_sealed`), so that the last gateway hands out what
the sender put in (`lossless_over_relays`).
-/

namespace FrameBus

namespace Envelope

/-! ## Algorithm -/

/-- A datagram comes in and goes on: its envelope is opened, and the frame in it put in an envelope
for the addresses that were found. -/
def again (bytes : List UInt8) : Except Rejected (List UInt8) :=
  match unwrap (.ofBytes bytes) with
  | .error e => .error ⟨e, .ofBytes bytes⟩
  | .ok (route, inner) => (wrap inner route).map Frame.window

/-- A datagram goes on `n` times. -/
def relays : (n : Nat) → List UInt8 → Except Rejected (List UInt8)
  | 0, bytes => .ok bytes
  | n + 1, bytes => again bytes >>= relays n

/-! ## Lemmas -/

theorem again_eq {bytes : List UInt8} {route : Addresses} {inner datagram : Frame}
    (opened : unwrap (.ofBytes bytes) = .ok (route, inner))
    (wrapped : wrap inner route = .ok datagram) : again bytes = .ok datagram.window := by
  simp only [again, opened, wrapped, Except.map]

/-- What a gateway sends on is the datagram that came in, gone on once. -/
theorem again_of_relay {κ : Type} {id hop : PortId} {r : Registry κ} {route : Addresses}
    {inner datagram : Frame} {why : BusError} {bytes : List UInt8}
    (opened : Gateway.arrival (.ofBytes bytes) = .opened route inner)
    (leaves : Gateway.relay id r route ⟨why, inner⟩ = .leaves hop datagram) :
    again bytes = .ok datagram.window := by
  obtain ⟨-, wrapped⟩ := Gateway.relay_eq_leaves leaves
  refine again_eq ?_ wrapped
  unfold Gateway.arrival at opened
  split at opened
  · next hu =>
    cases opened
    exact hu
  · cases opened
  · cases opened

variable (route : Addresses) (window : List UInt8)

theorem again_sealed : again (sealed route window) = .ok (sealed route window) := by
  obtain ⟨inner, opened, same, room⟩ := unwrap_sealed (f := .ofBytes (sealed route window)) rfl
  rw [again_eq opened (wrap_eq room route), same]

theorem relays_sealed (n : Nat) :
    relays n (sealed route window) = .ok (sealed route window) := by
  induction n with
  | zero => rfl
  | succ n ih =>
    rw [relays, again_sealed]
    exact ih

end Envelope

@[simp] theorem Frame.headRoom_duplicate (f : Frame) : f.duplicate.headRoom = defaultHeadRoom := by
  simp [duplicate, withHeadRoom, headRoom]

namespace EventFrame

variable {source dest : PortId} {event : UInt32} {payload : List UInt8}

/-- A frame is sent over `n` gateways and read at the end of the way: each step succeeds, the
datagram stays the same, and what is read is the event. -/
def Crosses (n : Nat) (source dest : PortId) (event : UInt32) (payload : List UInt8)
    (f : Frame) : Prop :=
  Envelope.peek f = .ok ⟨source, dest⟩ ∧
    ∃ datagram, Envelope.wrap f ⟨source, dest⟩ = .ok datagram ∧
      datagram.length = payload.length + 24 ∧
      Envelope.relays n datagram.window = .ok datagram.window ∧
      ∃ inner, Envelope.unwrap (.ofBytes datagram.window) = .ok (⟨source, dest⟩, inner) ∧
        ∃ header rest, decode inner = .ok (header, rest) ∧ header.source = source ∧
          header.dest = dest ∧ header.event = event ∧ header.length.toNat = payload.length ∧
          rest.window = payload

/-- Room for one envelope is enough. -/
theorem crosses_of_bytes {f : Frame} (hp : payload.length < 0x100000000)
    (h : f.window = bytes source dest event payload) (room : Envelope.size ≤ f.headRoom) (n : Nat) :
    Crosses n source dest event payload f := by
  have wrapped := Envelope.wrap_eq room ⟨source, dest⟩
  rw [h] at wrapped
  refine ⟨peek_bytes h, _, wrapped, ?_, Envelope.relays_sealed _ _ n, ?_⟩
  · show (Envelope.sealed _ _).length = _
    rw [Envelope.length_sealed, length_bytes, headerSize, Envelope.size]
  · obtain ⟨inner, opened, same, -⟩ := Envelope.unwrap_sealed
      (f := .ofBytes (Envelope.sealed ⟨source, dest⟩ (bytes source dest event payload))) rfl
    exact ⟨inner, opened, decode_bytes hp same⟩

/-- Every event comes over any number of gateways as it was sent, in the frame that was made for it
or in a copy of that. -/
theorem lossless_over_relays (source dest : PortId) (event : UInt32) {payload : List UInt8}
    (hp : payload.length < 0x100000000) (n : Nat) :
    ∃ f, encode source dest event payload = .ok f ∧ f.headRoom = 16 ∧
      Crosses n source dest event payload f ∧ Crosses n source dest event payload f.duplicate := by
  refine ⟨_, encode_eq hp, ?_, ?_, ?_⟩
  · simp [Frame.headRoom]
  · refine crosses_of_bytes hp rfl ?_ n
    simp [Frame.headRoom, Envelope.size]
  · refine crosses_of_bytes hp rfl ?_ n
    rw [Frame.headRoom_duplicate]
    decide

/-- From a controller's session to one of an application, over the three gateways between. -/
theorem lossless_over_three_relays :
    ([7, 0, 255] : List UInt8).length < 0x100000000 ∧
      ∃ f, encode (.ofParts 0 3 4) (.ofParts 1 5 7) 42 [7, 0, 255] = .ok f ∧ f.headRoom = 16 ∧
        Crosses 3 (.ofParts 0 3 4) (.ofParts 1 5 7) 42 [7, 0, 255] f ∧
        Crosses 3 (.ofParts 0 3 4) (.ofParts 1 5 7) 42 [7, 0, 255] f.duplicate :=
  ⟨by decide, lossless_over_relays _ _ 42 (by decide) 3⟩

end EventFrame

end FrameBus
