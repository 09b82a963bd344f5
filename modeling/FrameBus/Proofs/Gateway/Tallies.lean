import FrameBus.Proofs.Stop.Threads
import Mathlib.Algebra.BigOperators.Group.List.Defs
import Mathlib.Algebra.GroupWithZero.Nat

/-!
# What a gateway's tallies add up to

The counters after a list of tallies, each counter as the sum of what the tallies add to it. Beside
the tallies stands what happened to the frames (`Entry`), and `Accounts` is that the two fit: a
frame in a worker's hand is settled by one tally when it leaves the hand, and by none before.

    uplink                  the link took its datagram
    delivered, broadcast    it came to local ports
    integrityFailure, malformed, unroutable, undeliverable, sendError
                            it was dropped
-/

namespace FrameBus

/-! ## Tallies -/

namespace Tally

/-- How many frames a tally settles. -/
def settles : Tally → Nat
  | .downlink _ | .relayed => 0
  | _ => 1

/-- How many frames of others a tally sends on. -/
def relays : Tally → Nat
  | .relayed => 1
  | _ => 0

/-- The length of a datagram that the link took. -/
def sent : Tally → List Nat
  | .uplink bytes => [bytes]
  | _ => []

/-- The length of a frame whose envelope was opened. -/
def opened : Tally → List Nat
  | .downlink bytes => [bytes]
  | _ => []

end Tally

namespace Counters

def recordAll (c : Counters) (ts : List Tally) : Counters := ts.foldl record c

/-- The frames that are done with. -/
def settled (c : Counters) : UInt64 := c.uplinkFrames + c.delivered + c.broadcasts + c.dropped

theorem recordAll_append (c : Counters) (ts more : List Tally) :
    c.recordAll (ts ++ more) = (c.recordAll ts).recordAll more := List.foldl_append

/-- A counter to which each tally adds its own weight. -/
theorem recordAll_of_record {counter : Counters → UInt64} {weight : Tally → Nat}
    (adds : ∀ c t, counter (record c t) = counter c + UInt64.ofNat (weight t)) (c : Counters)
    (ts : List Tally) :
    counter (c.recordAll ts) = counter c + UInt64.ofNat (ts.map weight).sum := by
  induction ts generalizing c with
  | nil => simp [recordAll]
  | cons t ts ih =>
    have rest : counter (c.recordAll (t :: ts)) = _ := ih (c.record t)
    rw [rest, adds, List.map_cons, List.sum_cons, UInt64.ofNat_add, UInt64.add_assoc]

theorem settled_recordAll (c : Counters) (ts : List Tally) :
    (c.recordAll ts).settled = c.settled + UInt64.ofNat (ts.map Tally.settles).sum := by
  refine recordAll_of_record (fun c t => ?_) c ts
  simp only [settled, dropped_record]
  cases t <;> simp [record, Tally.settles] <;> ac_rfl

theorem relayed_recordAll (c : Counters) (ts : List Tally) :
    (c.recordAll ts).relayed = c.relayed + UInt64.ofNat (ts.map Tally.relays).sum :=
  recordAll_of_record (fun c t => by cases t <;> simp [record, Tally.relays]) c ts

theorem uplinkFrames_recordAll (c : Counters) (ts : List Tally) :
    (c.recordAll ts).uplinkFrames =
      c.uplinkFrames + UInt64.ofNat (ts.flatMap Tally.sent).length := by
  rw [List.length_flatMap]
  exact recordAll_of_record (fun c t => by cases t <;> simp [record, Tally.sent]) c ts

theorem uplinkBytes_recordAll (c : Counters) (ts : List Tally) :
    (c.recordAll ts).uplinkBytes = c.uplinkBytes + UInt64.ofNat (ts.flatMap Tally.sent).sum := by
  rw [List.flatMap_def, List.sum_flatten, List.map_map]
  exact recordAll_of_record (fun c t => by cases t <;> simp [record, Tally.sent]) c ts

theorem downlinkFrames_recordAll (c : Counters) (ts : List Tally) :
    (c.recordAll ts).downlinkFrames =
      c.downlinkFrames + UInt64.ofNat (ts.flatMap Tally.opened).length := by
  rw [List.length_flatMap]
  exact recordAll_of_record (fun c t => by cases t <;> simp [record, Tally.opened]) c ts

theorem downlinkBytes_recordAll (c : Counters) (ts : List Tally) :
    (c.recordAll ts).downlinkBytes =
      c.downlinkBytes + UInt64.ofNat (ts.flatMap Tally.opened).sum := by
  rw [List.flatMap_def, List.sum_flatten, List.map_map]
  exact recordAll_of_record (fun c t => by cases t <;> simp [record, Tally.opened]) c ts

end Counters

/-! ## Entries -/

/-- What happened to a frame. -/
inductive Entry where
  /-- a worker took it from its queue -/
  | popped (side : Side)
  /-- its envelope was opened; the frame as it was before -/
  | opened (f : Frame)
  /-- the link took the datagram that it became -/
  | accepted (side : Side) (datagram : Frame)
deriving DecidableEq

namespace Entry

/-- The worker of a side took a frame. -/
def isPopped (side : Side) : Entry → Bool
  | .popped s => s == side
  | _ => false

def opened? : Entry → Option Frame
  | .opened f => some f
  | _ => none

def accepted? (side : Side) : Entry → Option Frame
  | .accepted s datagram => if s = side then some datagram else none
  | _ => none

/-- A datagram of either side. -/
def sent? : Entry → Option Frame
  | .accepted _ datagram => some datagram
  | _ => none

theorem length_sent (es : List Entry) : (es.filterMap sent?).length =
    (es.filterMap (accepted? .up)).length + (es.filterMap (accepted? .down)).length := by
  induction es with
  | nil => rfl
  | cons e es ih =>
    cases e with
    | popped side => exact ih
    | opened f => exact ih
    | accepted side datagram =>
      cases side <;> simp only [List.filterMap_cons, sent?, accepted?, List.length_cons, ih] <;>
        simp <;> omega

/-- What a worker's step does to a frame, but for a transmission. -/
def ofStep : Side → Stand → Stand → List Entry
  | side, .waiting, .holding _ => [.popped side]
  | .down, .holding f, _ => if (Envelope.unwrap f).isOk then [.opened f] else []
  | _, _, _ => []

/-- What the answer of the link does to a datagram. -/
def ofAnswer (side : Side) (datagram : Frame) : Except BusError Unit → List Entry
  | .ok () => [.accepted side datagram]
  | .error _ => []

end Entry

/-- Tallies that fit the entries, with so many frames in hand before and after. -/
structure Accounts (es : List Entry) (before after : Nat) (ts : List Tally) : Prop where
  /-- a frame in hand stays there until one tally settles it -/
  settled : (ts.map Tally.settles).sum + after =
    before + (es.countP (Entry.isPopped .up) + es.countP (Entry.isPopped .down))
  sent : ts.flatMap Tally.sent = (es.filterMap Entry.sent?).map Frame.length
  relayed : (ts.map Tally.relays).sum = (es.filterMap (Entry.accepted? .down)).length
  opened : ts.flatMap Tally.opened = (es.filterMap Entry.opened?).map Frame.length

namespace Accounts

variable {es more : List Entry} {a b c : Nat} {ts us : List Tally}

theorem nothing (a : Nat) : Accounts [] a a [] := ⟨by simp, rfl, rfl, rfl⟩

theorem trans (h : Accounts es a b ts) (k : Accounts more b c us) :
    Accounts (es ++ more) a c (ts ++ us) where
  settled := by
    have first := h.settled
    have second := k.settled
    simp only [List.map_append, List.sum_append, List.countP_append]
    omega
  sent := by simp [h.sent, k.sent]
  relayed := by simp [h.relayed, k.relayed]
  opened := by simp [h.opened, k.opened]

/-- A frame in hand is settled, and the link does not see it. -/
theorem settles {t : Tally} (one : t.settles = 1) (stays : t.sent = []) : Accounts [] 1 0 [t] := by
  cases t with
  | downlink bytes => cases one
  | relayed => cases one
  | uplink bytes => cases stays
  | _ => exact ⟨rfl, rfl, rfl, rfl⟩

/-- The other worker keeps what it has in its hand. -/
theorem beside (h : Accounts es a b ts) (k : Nat) : Accounts es (a + k) (b + k) ts :=
  ⟨by have := h.settled; omega, h.sent, h.relayed, h.opened⟩

end Accounts

end FrameBus
