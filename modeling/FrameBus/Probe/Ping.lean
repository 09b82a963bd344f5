import FrameBus.Probe.Payload

/-!
# Pings and their answers

Pings are numbered from 0, and the first ones are for warming up. The session's handler puts the
numbers of the answers into a channel. After each ping the run takes numbers from the channel, as
long as it waits, until the ping's own number comes; a ping whose wait ends first is lost.
-/

namespace FrameBus.Probe

/-- The payload of a ping: its number in 8 bytes, the low one first, and zeros up to a size. -/
def pingPayload (size i : Nat) : List UInt8 :=
  Bytes.little 8 i ++ List.replicate (size - 8) 0

structure Pings where
  warmup : Nat
  count : Nat
  /-- the ping that is waited for -/
  current : Nat := 0
  /-- numbers that no wait has taken, in order of arrival -/
  channel : List Nat := []
  /-- latencies in microseconds, in order -/
  samples : List UInt64 := []
  lost : Nat := 0
deriving DecidableEq, Repr

namespace Pings

/-- What happens to a run of pings. -/
inductive Happening where
  /-- an answer comes to the session -/
  | pong (payload : List UInt8)
  /-- the wait takes a number from the channel, so long after its ping was sent -/
  | take (latency : UInt64)
  /-- the wait ends -/
  | expire
deriving DecidableEq, Repr

def total (p : Pings) : Nat := p.warmup + p.count

def isDone (p : Pings) : Bool := decide (p.total ≤ p.current)

/-- Whether the ping that is waited for counts. -/
def measured (p : Pings) : Bool := decide (p.warmup ≤ p.current)

/-- The ping that is waited for is answered. -/
def answered (p : Pings) (latency : UInt64) : Pings :=
  { p with current := p.current + 1
           samples := if p.measured then p.samples ++ [latency] else p.samples }

/-- The ping that is waited for is lost. -/
def missed (p : Pings) : Pings :=
  { p with current := p.current + 1, lost := if p.measured then p.lost + 1 else p.lost }

def step (p : Pings) : Happening → Pings
  | .pong payload =>
    match readSequence payload with
    | some i => { p with channel := p.channel ++ [i] }
    | none => p
  | .take latency =>
    if p.isDone then p
    else
      match p.channel with
      | [] => p
      | i :: rest =>
        let p := { p with channel := rest }
        if i = p.current then p.answered latency else p
  | .expire => if p.isDone then p else p.missed

def run (p : Pings) (hs : List Happening) : Pings := hs.foldl step p

/-- Takes numbers without delay until the ping that is waited for is answered. -/
def drain (latency : UInt64) (p : Pings) : Pings :=
  let i := p.current
  p.channel.foldl (fun q _ => if q.current = i then q.step (.take latency) else q) p

/-! ## Lemmas -/

theorem run_append (p : Pings) (hs ks : List Happening) : p.run (hs ++ ks) = (p.run hs).run ks :=
  List.foldl_append

end Pings

end FrameBus.Probe
