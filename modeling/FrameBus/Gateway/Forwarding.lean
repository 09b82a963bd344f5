import FrameBus.Frame.Envelope
import FrameBus.Registry.Delivery

/-!
# What a gateway does with a frame

A frame on its way out is sealed in an envelope and goes to the next hop. A frame that came in is
freed of its envelope and goes to a local port; one without a local target goes to the next gateway
in the envelope that it came in. A hop is never the gateway itself.
-/

namespace FrameBus.Gateway

/-- What becomes of a local frame headed for another node. -/
inductive Departure where
  | malformed
  | unroutable
  | leaves (hop : PortId) (datagram : Frame)
deriving DecidableEq, Repr

/-- The gateway after this one on the way to a destination. -/
def hop? (id dest : PortId) : Option PortId :=
  (Route.nextHop? id dest).filter fun hop => hop != id

/-- The hop for a destination, which for a broadcast is every gateway. -/
def departureHop? (id dest : PortId) : Option PortId :=
  if dest.isBroadcast then some .broadcast else hop? id dest

def departure (id : PortId) (f : Frame) : Departure :=
  match Envelope.peek f with
  | .error _ => .malformed
  | .ok route =>
    match departureHop? id route.dest with
    | none => .unroutable
    | some hop =>
      match Envelope.wrap f route with
      | .error _ => .malformed
      | .ok datagram => .leaves hop datagram

/-- What becomes of a frame from another node. -/
inductive Arrival where
  | integrityFailure
  | malformed
  | opened (route : Addresses) (inner : Frame)
deriving DecidableEq, Repr

def arrival (f : Frame) : Arrival :=
  match Envelope.unwrap f with
  | .ok (route, inner) => .opened route inner
  | .error (.integrity _ _) => .integrityFailure
  | .error _ => .malformed

/-- What becomes of a frame that no local port took. -/
inductive Relay where
  | undeliverable
  | malformed
  | leaves (hop : PortId) (datagram : Frame)
deriving DecidableEq, Repr

/-- Only a frame without any local target goes on, and only to a gateway of another node. -/
def relay {κ : Type} (id : PortId) (r : Registry κ) (route : Addresses) (why : Rejected) : Relay :=
  match why.error with
  | .unreachable _ =>
    match (hop? id route.dest).filter fun hop => (r.get? hop).isNone with
    | none => .undeliverable
    | some hop =>
      match Envelope.wrap why.frame route with
      | .error _ => .malformed
      | .ok datagram => .leaves hop datagram
  | _ => .undeliverable

/-! ## Lemmas -/

theorem hop?_eq_some_iff {id dest hop : PortId} :
    hop? id dest = some hop ↔ Route.nextHop? id dest = some hop ∧ hop ≠ id := by
  simp [hop?, Option.filter_eq_some_iff]

/-- What leaves is the frame in its envelope. -/
theorem departure_eq_leaves {id hop : PortId} {f datagram : Frame}
    (h : departure id f = .leaves hop datagram) : ∃ route, Envelope.peek f = .ok route ∧
      departureHop? id route.dest = some hop ∧ Envelope.wrap f route = .ok datagram := by
  unfold departure at h
  split at h
  · cases h
  · next route peeked =>
    split at h
    · cases h
    · next hop' hh =>
      split at h
      · cases h
      · next datagram' wrapped =>
        cases h
        exact ⟨route, peeked, hh, wrapped⟩

/-- What goes on is the frame in its envelope again. -/
theorem relay_eq_leaves {κ : Type} {id hop : PortId} {r : Registry κ} {route : Addresses}
    {why : Rejected} {datagram : Frame} (h : relay id r route why = .leaves hop datagram) :
    hop? id route.dest = some hop ∧ Envelope.wrap why.frame route = .ok datagram := by
  unfold relay at h
  split at h
  · split at h
    · cases h
    · next hop' hh =>
      split at h
      · cases h
      · next datagram' wrapped =>
        cases h
        exact ⟨(Option.filter_eq_some_iff.1 hh).1, wrapped⟩
  · cases h

end FrameBus.Gateway
