import FrameBus.Network.Lifecycle
import FrameBus.Proofs.Network.Marks

/-!
# The threads of a gateway

A gateway has four threads: the two workers, the receiver of a datagram link, and the one that calls
the stop. Here each of them makes small steps, between which the others and the rest of the network
may move. The caller's steps are the parts of `Network.stopGateway`, and a worker's are parts of a
move of its:

    judge     what becomes of a frame is found out: a drop is counted, anything else is an errand
    advance   the next part of an errand is done

No others between, these parts come to what the worker makes of the frame in one move
(`handleUplink_iff`, `handleDownlink_iff`).

The caller keeps the lock of the link from the time that it tells the link to stop until the link's
receiver has ended. A worker needs this lock to transmit.
-/

namespace FrameBus

inductive Side where
  /-- from the gateway's port to the link -/
  | up
  /-- from the ingress queue to the ports -/
  | down
deriving DecidableEq, Repr

/-- The moves of a side's worker. -/
def Side.move (g : Nat) : Side → Network.Move
  | .up => .uplink g
  | .down => .downlink g

/-- What is to be done with a frame that is not dropped. -/
inductive Errand where
  | transmit (hop : PortId) (datagram : Frame) (relayed : Bool)
  | deliver (target : Handle) (inner : Frame)
  /-- a broadcast, with the ports that it has still to come to -/
  | spread (left : List (Handle × Reaction)) (inner : Frame) (accepted : Nat)
deriving DecidableEq, Repr

/-! ## Parts of a move -/

namespace Network

/-- A worker takes the oldest frame of its queue. -/
def pop (n : Network) (g : Nat) (gw : Gateway) : Side → Popped Frame × Network
  | .up =>
    let (popped, r) := (n.node gw.node).receive gw.port
    (popped, n.setNode gw.node r)
  | .down =>
    let (popped, q) := gw.ingress.poll
    (popped, n.modifyGateway g fun gw => { gw with ingress := q })

/-- Where a frame from another node goes: to the local ports, to one of them, or on. -/
def direct (n : Network) (g : Nat) (gw : Gateway) (route : Addresses) (inner : Frame) :
    Option Errand × Network :=
  let r := n.node gw.node
  if route.dest.isBroadcast then
    if r.isConnected gw.port then
      (some (.spread (r.recipients (r.idOf gw.port)) inner 0), n)
    else (none, n.record g .undeliverable)
  else
    match r.resolve gw.port route.dest with
    | .ok target => (some (.deliver target inner), n)
    | .error e =>
      match Gateway.relay gw.id r route ⟨e, inner⟩ with
      | .undeliverable => (none, n.record g .undeliverable)
      | .malformed => (none, n.record g .malformed)
      | .leaves hop datagram => (some (.transmit hop datagram true), n)

/-- What becomes of a frame. -/
def judge (n : Network) (g : Nat) (gw : Gateway) : Side → Frame → Option Errand × Network
  | .up, f =>
    match Gateway.departure gw.id f with
    | .malformed => (none, n.record g .malformed)
    | .unroutable => (none, n.record g .unroutable)
    | .leaves hop datagram => (some (.transmit hop datagram false), n)
  | .down, f =>
    match Gateway.arrival f with
    | .integrityFailure => (none, n.record g .integrityFailure)
    | .malformed => (none, n.record g .malformed)
    | .opened route inner => (n.record g (.downlink f.length)).direct g gw route inner

/-- The next part of an errand, and what is left of it; nothing while the worker has to wait. -/
def advance (n : Network) (g : Nat) (gw : Gateway) : Errand → Option (Option Errand × Network)
  | .transmit hop datagram relayed => (n.transmit g hop datagram relayed).map fun n => (none, n)
  | .deliver target inner =>
    match (n.node gw.node).enqueue target inner with
    | .accepted r => some (none, (n.setNode gw.node r).record g .delivered)
    | .closed => some (none, n.record g .undeliverable)
    | .full => none
  | .spread [] _ accepted => some (none, n.record g (.broadcast accepted))
  | .spread ((h, k) :: left) inner accepted =>
    (Reaction.run k h inner (n.node gw.node)).map fun (result, r) =>
      (some (.spread left inner (accepted + result.isOk.toNat)), n.setNode gw.node r)

/-! ## A move in parts -/

/-- An errand is done to its end, with no others between. -/
inductive Carried (g : Nat) (gw : Gateway) : Option Errand × Network → Network → Prop
  | done (n : Network) : Carried g gw (none, n) n
  | part {e : Errand} {n m : Network} {next : Option Errand × Network} :
      n.advance g gw e = some next → Carried g gw next m → Carried g gw (some e, n) m

variable {n m : Network} {g : Nat} {gw : Gateway} {f : Frame}

theorem carried_none : Carried g gw (none, n) m ↔ n = m :=
  ⟨fun h => by cases h; rfl, fun h => h ▸ .done n⟩

theorem carried_some {e : Errand} :
    Carried g gw (some e, n) m ↔ ∃ next, n.advance g gw e = some next ∧ Carried g gw next m :=
  ⟨fun h => by cases h with | part ha hc => exact ⟨_, ha, hc⟩, fun ⟨_, ha, hc⟩ => .part ha hc⟩

theorem carried_transmit {hop : PortId} {relayed : Bool} :
    Carried g gw (some (.transmit hop f relayed), n) m ↔ n.transmit g hop f relayed = some m := by
  simp only [carried_some, advance, Option.map_eq_some_iff]
  constructor
  · rintro ⟨_, ⟨k, hk, rfl⟩, h⟩
    rw [carried_none.1 h] at hk
    exact hk
  · intro h
    exact ⟨_, ⟨m, h, rfl⟩, .done m⟩

theorem handleUplink_iff (hg : n.gateways[g]? = some gw) :
    n.handleUplink g f = some m ↔ Carried g gw (n.judge g gw .up f) m := by
  simp only [handleUplink, hg, Option.bind_eq_bind, Option.bind_some, judge]
  cases Gateway.departure gw.id f with
  | malformed => simp [carried_none]
  | unroutable => simp [carried_none]
  | leaves hop datagram => rw [carried_transmit]

/-- A broadcast port by port comes to what it is in one go. -/
theorem carried_spread {left : List (Handle × Reaction)} {accepted : Nat}
    (hi : gw.node < n.nodes.length) :
    Carried g gw (some (.spread left f accepted), n) m ↔
      ∃ o, Registry.runAll Reaction.run f left (n.node gw.node) = some o ∧
        (n.setNode gw.node o.after).record g (.broadcast (accepted + o.accepted)) = m := by
  induction left generalizing n accepted with
  | nil => simp [carried_some, advance, carried_none, Registry.runAll, Registry.Outcome.accepted,
      setNode_self]
  | cons k left ih =>
    obtain ⟨h, k⟩ := k
    simp only [carried_some, advance, Option.map_eq_some_iff, Registry.runAll,
      Option.bind_eq_bind, Option.bind_eq_some_iff]
    have key (result : Except BusError Unit) (r : Registry Reaction) :
        Carried g gw (some (.spread left f (accepted + result.isOk.toNat)), n.setNode gw.node r) m ↔
          ∃ o, Registry.runAll Reaction.run f left r = some o ∧
            (n.setNode gw.node o.after).record g
              (.broadcast (accepted + result.isOk.toNat + o.accepted)) = m := by
      have hi' : gw.node < (n.setNode gw.node r).nodes.length := by simpa [setNode] using hi
      have here : (n.setNode gw.node r).node gw.node = r := by simp [node_setNode, hi]
      rw [ih hi', here]
      simp only [setNode_setNode]
    have count (result : Except BusError Unit) (o : Registry.Outcome Reaction) :
        accepted + result.isOk.toNat + o.accepted = accepted +
          Registry.Outcome.accepted { o with calls := (h, result) :: o.calls } := by
      simp only [Registry.Outcome.accepted, List.countP_cons]
      cases result.isOk with
      | false => simp
      | true =>
        simp
        omega
    constructor
    · rintro ⟨_, ⟨⟨result, r⟩, hr, rfl⟩, hc⟩
      obtain ⟨o, ho, hm⟩ := (key result r).1 hc
      exact ⟨_, ⟨⟨result, r⟩, hr, o, ho, rfl⟩, by rw [← count]; exact hm⟩
    · rintro ⟨_, ⟨⟨result, r⟩, hr, o, ho, e⟩, hm⟩
      cases e
      rw [← count] at hm
      exact ⟨_, ⟨⟨result, r⟩, hr, rfl⟩, (key result r).2 ⟨o, ho, hm⟩⟩

theorem carried_direct {route : Addresses} {inner : Frame} (hi : gw.node < n.nodes.length) :
    Carried g gw (n.direct g gw route inner) m ↔
      (if route.dest.isBroadcast then
        (do
          match ← (n.node gw.node).broadcast Reaction.run gw.port inner with
          | .ok o => return (n.setNode gw.node o.after).record g (.broadcast o.accepted)
          | .error _ => return n.record g .undeliverable : Option Network)
      else n.handleUnicast g gw route inner) = some m := by
  by_cases hb : route.dest.isBroadcast
  · by_cases hc : (n.node gw.node).isConnected gw.port
    · simp only [direct, if_pos hb, if_pos hc, carried_spread hi, Registry.broadcast, Nat.zero_add,
        Option.bind_eq_bind, Option.bind_map, Option.bind_eq_some_iff]
      exact exists_congr fun o => and_congr_right fun _ => ⟨congrArg some, Option.some.inj⟩
    · simp [direct, hb, hc, carried_none, Registry.broadcast]
  · simp only [direct, if_neg hb, handleUnicast, Registry.send]
    cases (n.node gw.node).resolve gw.port route.dest with
    | ok target =>
      simp only [Registry.deliver, carried_some, advance]
      cases (n.node gw.node).enqueue target inner with
      | accepted r => simp [carried_none]
      | closed => simp [carried_none, Gateway.relay]
      | full => simp
    | error e =>
      simp only
      cases Gateway.relay gw.id (n.node gw.node) route ⟨e, inner⟩ with
      | undeliverable => simp [carried_none]
      | malformed => simp [carried_none]
      | leaves hop datagram => rw [carried_transmit]

theorem handleDownlink_iff (hg : n.gateways[g]? = some gw) (hi : gw.node < n.nodes.length) :
    n.handleDownlink g f = some m ↔ Carried g gw (n.judge g gw .down f) m := by
  simp only [handleDownlink, hg, Option.bind_eq_bind, Option.bind_some, judge]
  cases Gateway.arrival f with
  | integrityFailure => simp [carried_none]
  | malformed => simp [carried_none]
  | opened route inner =>
    simp only
    rw [carried_direct (show gw.node < (n.record g (.downlink f.length)).nodes.length from hi)]
    rfl

end Network

/-! ## Stands -/

/-- Where a worker stands. -/
inductive Stand where
  | ended
  /-- before it looks at the flag -/
  | checking
  /-- at its queue, for a limited time -/
  | waiting
  | holding (f : Frame)
  /-- on the errand that a frame became -/
  | busy (f : Frame) (e : Errand)
deriving DecidableEq, Repr

namespace Stand

/-- Where a worker stands with what is left to do for a frame. -/
def after (f : Frame) : Option Errand → Stand
  | none => .checking
  | some e => .busy f e

def frames : Stand → List Frame
  | .holding f | .busy f _ => [f]
  | _ => []

/-- The worker needs the lock of the link. -/
def needsLink : Stand → Bool
  | .busy _ (.transmit _ _ _) => true
  | _ => false

end Stand

/-- Where the caller of the stop stands. -/
inductive Caller where
  | away
  /-- before it gets the lock of the link -/
  | calling
  /-- has the lock, and waits for the link's receiver -/
  | joining
  /-- has left the lock -/
  | unlinked
  /-- has cleared the flag -/
  | cleared
  /-- has disconnected the port, and waits for the workers -/
  | disconnected
  | returned
deriving DecidableEq, Repr

/-- Where the receiver of a datagram link stands. A link of a hub has none. -/
inductive Receiving where
  | ended
  /-- before it looks at the flag -/
  | checking
  /-- at the socket, for a limited time -/
  | reading
  /-- hands a datagram over -/
  | pushing (bytes : List UInt8)
deriving DecidableEq, Repr

namespace Network

/-- The next step of a worker. -/
def work (n : Network) (g : Nat) (gw : Gateway) (side : Side) : Stand → Option (Stand × Network)
  | .ended => none
  | .checking => some (if gw.running then .waiting else .ended, n)
  | .waiting =>
    match n.pop g gw side with
    | (.item f, n) => some (.holding f, n)
    | (.closed, _) => some (.ended, n)
    | (.timedOut, _) => some (.checking, n)
  | .holding f =>
    let (e, n) := n.judge g gw side f
    some (.after f e, n)
  | .busy f e => (n.advance g gw e).map fun (e, n) => (.after f e, n)

/-- The next step of a socket's receiver. -/
def hearken (n : Network) (g s : Nat) : Receiving → Option (Receiving × Network)
  | .ended => none
  | .checking =>
    some (if (n.sockets[s]?).any Datagram.Socket.receiving then .reading else .ended, n)
  | .reading =>
    match (n.sockets[s]?).bind fun socket => socket.inbox.head? with
    | none => some (.checking, n)
    | some bytes =>
      some (if bytes.isEmpty then .checking else .pushing bytes,
        n.modifySocket s fun socket => { socket with inbox := socket.inbox.tail })
  | .pushing bytes => (hear (.gateway g) bytes n).map fun (_, n) => (.checking, n)

end Network

/-- The threads of a gateway, and the network that they are in. -/
structure Crew where
  net : Network
  caller : Caller
  up : Stand
  down : Stand
  receiver : Receiving

namespace Crew

/-! ## Steps -/

def stand (c : Crew) : Side → Stand
  | .up => c.up
  | .down => c.down

/-- A worker has come to another stand. -/
def put (c : Crew) (side : Side) (s : Stand) (n : Network) : Crew :=
  match side with
  | .up => { c with net := n, up := s }
  | .down => { c with net := n, down := s }

/-- The next step of the caller, whose parts are those of `Network.stopGateway`. -/
def call (c : Crew) (g : Nat) (gw : Gateway) : Option Crew :=
  match c.caller with
  | .away => some { c with caller := if gw.running then .calling else .returned }
  | .calling => some { c with caller := .joining, net := (c.net.stopLink gw.link).2 }
  | .joining => if c.receiver = .ended then some { c with caller := .unlinked } else none
  | .unlinked => some { c with caller := .cleared, net := c.net.clearGateway g }
  | .cleared =>
    some { c with caller := .disconnected, net := c.net.setPortState gw.node gw.port .disconn }
  | .disconnected =>
    if c.up = .ended ∧ c.down = .ended then some { c with caller := .returned } else none
  | .returned => none

/-- What a worker did with a frame in one step. -/
structure Turn where
  side : Side
  before : Stand × Network
  after : Stand × Network

/-- The turns that a worker's step is. -/
def turns (side : Side) (before after : Stand × Network) : List Turn :=
  if before.1.frames.isEmpty then [] else [⟨side, before, after⟩]

/-- What the rest of the network does: traffic, the moves of all others, and datagrams that come. -/
inductive Others (g : Nat) : Network → Network → Prop
  | traffic {n m : Network} : n.Traffic m → Others g n m
  | move {n m : Network} (mv : Network.Move) : mv ≠ .uplink g → mv ≠ .downlink g →
      (∀ s, mv = .socket s → n.owner? s ≠ some g) → n.move mv = some m → Others g n m
  | datagrams (n : Network) (packets : List Datagram.Packet) : Others g n (n.carry packets)

/-- A step of one of the four threads. -/
inductive Moves (g : Nat) : Crew → List Turn → Crew → Prop
  | work {c : Crew} {gw : Gateway} {s : Stand} {n : Network} (side : Side) :
      c.net.gateways[g]? = some gw → ¬ (c.caller = .joining ∧ (c.stand side).needsLink) →
      c.net.work g gw side (c.stand side) = some (s, n) →
      Moves g c (turns side (c.stand side, c.net) (s, n)) (c.put side s n)
  | call {c d : Crew} {gw : Gateway} :
      c.net.gateways[g]? = some gw → c.call g gw = some d → Moves g c [] d
  | hearken {c : Crew} {gw : Gateway} {s : Nat} {r : Receiving} {n : Network} :
      c.net.gateways[g]? = some gw → gw.link = .datagram s →
      c.net.hearken g s c.receiver = some (r, n) →
      Moves g c [] { c with net := n, receiver := r }

/-- With the lock of the link left to the workers. -/
theorem Moves.free {g : Nat} {c : Crew} {gw : Gateway} {s : Stand} {n : Network} (side : Side)
    (hg : c.net.gateways[g]? = some gw) (hc : c.caller ≠ .joining)
    (hw : c.net.work g gw side (c.stand side) = some (s, n)) :
    Moves g c (turns side (c.stand side, c.net) (s, n)) (c.put side s n) :=
  .work side hg (fun blocked => hc blocked.1) hw

inductive Step (g : Nat) : Crew → List Turn → Crew → Prop
  | moves {c d : Crew} {ts : List Turn} : Moves g c ts d → Step g c ts d
  | others {c : Crew} {n : Network} : Others g c.net n → Step g c [] { c with net := n }

/-- Any number of steps, in any order, with the turns that they were. -/
inductive Run (g : Nat) : Crew → List Turn → Crew → Prop
  | refl (c : Crew) : Run g c [] c
  | step {c d e : Crew} {ts new : List Turn} : Run g c ts d → Step g d new e →
      Run g c (ts ++ new) e

end Crew

end FrameBus
