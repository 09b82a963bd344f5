import FrameBus.Numeral

/-!
# Counters of a gateway

What a gateway counts, in 64-bit words that wrap. One `Tally` is one thing that happened.
-/

namespace FrameBus

structure Counters where
  uplinkFrames : UInt64 := 0
  uplinkBytes : UInt64 := 0
  downlinkFrames : UInt64 := 0
  downlinkBytes : UInt64 := 0
  /-- frames given to a local port -/
  delivered : UInt64 := 0
  /-- broadcast frames handed round locally -/
  broadcasts : UInt64 := 0
  broadcastRecipients : UInt64 := 0
  /-- frames sent on to another gateway -/
  relayed : UInt64 := 0
  integrityFailures : UInt64 := 0
  malformed : UInt64 := 0
  unroutable : UInt64 := 0
  undeliverable : UInt64 := 0
  sendErrors : UInt64 := 0
deriving DecidableEq, Repr, Inhabited

/-- One thing that a gateway counts. -/
inductive Tally where
  | uplink (bytes : Nat)
  | downlink (bytes : Nat)
  | delivered
  | broadcast (recipients : Nat)
  | relayed
  | integrityFailure
  | malformed
  | unroutable
  | undeliverable
  | sendError
deriving DecidableEq, Repr

namespace Counters

/-! ## Counting -/

def record (c : Counters) : Tally → Counters
  | .uplink bytes =>
    { c with uplinkFrames := c.uplinkFrames + 1
             uplinkBytes := c.uplinkBytes + UInt64.ofNat bytes }
  | .downlink bytes =>
    { c with downlinkFrames := c.downlinkFrames + 1
             downlinkBytes := c.downlinkBytes + UInt64.ofNat bytes }
  | .delivered => { c with delivered := c.delivered + 1 }
  | .broadcast recipients =>
    { c with broadcasts := c.broadcasts + 1
             broadcastRecipients := c.broadcastRecipients + UInt64.ofNat recipients }
  | .relayed => { c with relayed := c.relayed + 1 }
  | .integrityFailure => { c with integrityFailures := c.integrityFailures + 1 }
  | .malformed => { c with malformed := c.malformed + 1 }
  | .unroutable => { c with unroutable := c.unroutable + 1 }
  | .undeliverable => { c with undeliverable := c.undeliverable + 1 }
  | .sendError => { c with sendErrors := c.sendErrors + 1 }

/-- The same thing happening `n` times. -/
def recordTimes (c : Counters) (t : Tally) : Nat → Counters
  | 0 => c
  | n + 1 => recordTimes (c.record t) t n

/-- Frames dropped for any reason. -/
def dropped (c : Counters) : UInt64 :=
  c.integrityFailures + c.malformed + c.unroutable + c.undeliverable + c.sendErrors

/-- The counters with their names. -/
def fields (c : Counters) : List (String × UInt64) :=
  [("uplink_frames", c.uplinkFrames), ("uplink_bytes", c.uplinkBytes),
    ("downlink_frames", c.downlinkFrames), ("downlink_bytes", c.downlinkBytes),
    ("delivered", c.delivered), ("broadcasts", c.broadcasts),
    ("broadcast_recipients", c.broadcastRecipients), ("relayed", c.relayed),
    ("integrity_failures", c.integrityFailures), ("malformed", c.malformed),
    ("unroutable", c.unroutable), ("undeliverable", c.undeliverable),
    ("send_errors", c.sendErrors)]

/-! ## Lemmas -/

/-- Everything that drops a frame adds one to the dropped frames, and nothing else does. -/
theorem dropped_record (c : Counters) (t : Tally) :
    (c.record t).dropped = c.dropped +
      match t with
      | .integrityFailure | .malformed | .unroutable | .undeliverable | .sendError => 1
      | _ => 0 := by
  cases t <;> simp [record, dropped] <;> ac_rfl

end Counters

end FrameBus
