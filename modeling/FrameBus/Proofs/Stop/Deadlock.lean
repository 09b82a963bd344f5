import FrameBus.Proofs.Network.Passage
import FrameBus.Proofs.Stop.Progress

/-!
# A stop that waits for ever

The stop of a gateway on a socket can come to where no thread can go on, if and only if the
gateway's ingress queue has a bound (`stuck_reachable_iff`). Without a bound the receiver never
waits, so it ends, and with it the caller's hold on the lock. With a bound it takes this order:

    downlink   takes a frame and judges it: it goes on to another gateway
    receiver   fills the queue that the frame was taken from, and takes one more datagram
    caller     gets the lock before the worker does, and waits for the receiver

Then the receiver waits for the worker to take a frame, and the worker for the lock.
-/

namespace FrameBus

/-! ## Room in a queue -/

namespace Queue

variable {α : Type}

/-- The items that count for the bound: all, or those on the list that producers append to. -/
def counted : Queue α → Nat
  | .single q => q.items.length
  | .double q => q.back.length

theorem isFull_eq (q : Queue α) : q.isFull = atBound q.capacity q.counted := by cases q <;> rfl

theorem counted_add (q : Queue α) (a : α) : (q.add a).counted = q.counted + 1 := by
  cases q <;> simp [add, counted, Single.append, Double.stage, Double.countUp]

theorem counted_new (config : QueueConfig) : (new config : Queue α).counted = 0 := by
  cases h : config.kind <;> simp [new, h, counted, Single.new, Double.new]

theorem capacity_new (config : QueueConfig) :
    (new config : Queue α).capacity = QueueConfig.bound config.capacity := by
  cases h : config.kind <;> simp [new, h, capacity, Single.new, Double.new]

theorem blank_new (config : QueueConfig) : (new config : Queue α).blank = new config := by
  cases h : config.kind <;> simp [new, h, blank, Single.new, Double.new]

theorem isFull_new (config : QueueConfig) : (new config : Queue α).isFull = false := by
  rw [isFull_eq, counted_new, capacity_new]
  cases h : QueueConfig.bound config.capacity with
  | none => rfl
  | some c => exact decide_eq_false (Nat.not_le_of_lt (QueueConfig.bound_pos h))

/-- Only a bound makes a queue full. -/
theorem capacity_of_isFull {q : Queue α} (h : q.isFull = true) : q.capacity.isSome = true := by
  rw [isFull_eq] at h
  cases hc : q.capacity with
  | none => rw [hc] at h; cases h
  | some c => rfl

/-- The first item of a new queue can be taken at once. -/
theorem poll_add_new (config : QueueConfig) (a : α) :
    ((new config).add a).poll = (.item a, new config) := by
  cases h : config.kind <;>
    simp [new, h, add, poll, take?, Single.new, Single.append, Single.take?, Double.new,
      Double.stage, Double.countUp, Double.take?, Double.swap, Double.takeFront?, Double.countDown]

/-- The free places of a bounded queue. -/
def room (q : Queue α) : Nat := q.capacity.getD 0 - q.counted

theorem room_add {q : Queue α} {c : Nat} (hc : q.capacity = some c) (h : q.isFull = false)
    (a : α) : (q.add a).room < q.room := by
  have free : q.counted < c := by
    rw [isFull_eq, hc] at h
    exact Nat.lt_of_not_le (of_decide_eq_false h)
  have capacity : (q.add a).capacity = some c := by
    rw [← capacity_blank, blank_add, capacity_blank, hc]
  simp only [room, counted_add, capacity, hc, Option.getD_some]
  omega

end Queue

namespace Crew

/-! ## What a run comes to -/

/-- The second crew is what a run of the first comes to. -/
def Reaches (g : Nat) (c d : Crew) : Prop := ∃ ts, Run g c ts d

variable {g : Nat} {c d e : Crew}

theorem Reaches.refl (g : Nat) (c : Crew) : Reaches g c c := ⟨[], .refl c⟩

theorem Reaches.step {ts : List Turn} (h : Reaches g c d) (step : Step g d ts e) :
    Reaches g c e := by
  obtain ⟨us, run⟩ := h
  exact ⟨us ++ ts, run.step step⟩

theorem Reaches.moves {ts : List Turn} (h : Reaches g c d) (m : Moves g d ts e) : Reaches g c e :=
  h.step (.moves m)

theorem Reaches.trans (h : Reaches g c d) (h' : Reaches g d e) : Reaches g c e := by
  obtain ⟨ts, run⟩ := h'
  induction run with
  | refl => exact h
  | step _ step ih => exact ih.step step

/-- The crew of a gateway on a socket that was just started, with an ingress queue of a design and
bound. -/
structure Started (g : Nat) (ingress : QueueConfig) (c : Crew) : Prop where
  started : ∃ n : Network, n.startGateway g {} = (.ok (), c.net)
  gateway : ∃ gw s, c.net.gateways[g]? = some gw ∧ gw.id.isReserved = false ∧
    gw.link = .datagram s ∧ gw.ingress.blank = .new ingress
  copies : Network.Copies c.net
  caller : c.caller = .away
  workers : ∀ side, c.stand side = .checking
  receiver : c.receiver = .checking

theorem manned_of_started {ingress : QueueConfig} (h : Started g ingress c) :
    ∃ gw s, Manned g gw c ∧ gw.link = .datagram s ∧ gw.ingress.blank = .new ingress := by
  obtain ⟨gw, s, hg, id, link, queue⟩ := h.gateway
  refine ⟨gw, s, ⟨hg, ⟨id, fun hub endpoint faults hl => ?_⟩, h.copies, fun side => ?_⟩, link,
    queue⟩
  · rw [link] at hl
    cases hl
  · rw [h.workers side]
    trivial

/-- A stop that gets stuck has a bound on the ingress queue to blame. -/
theorem bounded_of_stuck {ingress : QueueConfig} (start : Started g ingress c) (run : Reaches g c d)
    (stuck : Stuck g d) : ingress.capacity.isSome = true := by
  obtain ⟨gw, s, manned, link, queue⟩ := manned_of_started start
  obtain ⟨ts, run⟩ := run
  obtain ⟨gv, manned', link', capacity⟩ := manned_of_run manned run
  have jammed := (stuck_iff manned' (link'.trans link)).1 stuck
  have bounded := Queue.capacity_of_isFull jammed.queue.2
  rw [capacity, ← Queue.capacity_blank, queue, Queue.capacity_new] at bounded
  simpa [QueueConfig.bound] using bounded

/-! ## A gateway by itself -/

def address : SocketAddress := .v4 ⟨127, 0, 0, 1⟩ 7600

/-- The gateway of the application route, on a socket. -/
def alone (ingress : Queue Frame) (counters : Counters) : Gateway where
  node := 0
  id := .appRoute
  port := 0
  link := .datagram 0
  ingress
  running := true
  uplink := .polling
  downlink := .polling
  counters

/-- The node of that gateway and of a session, with what waits at the gateway's port. -/
def lobby (waiting : Queue Frame) : Registry Reaction where
  config := {}
  ports := [⟨.appRoute, .conn, waiting, some .copy⟩, ⟨.ofParts 1 0 7, .conn, .new {}, some .copy⟩]
  registered := [0, 1]
  sessions := [.ofParts 1 0 7]

def lone (gw : Gateway) (waiting : Queue Frame) (receiving : Bool) (inbox : List (List UInt8)) :
    Network where
  host := ⟨.ok, fun _ _ => .ok (), {}⟩
  nodes := [lobby waiting]
  sockets := [{ address, peers := [], id := some .appRoute, hooked := true, receiving, inbox }]
  gateways := [gw]

/-- The crew of that gateway while its link runs and nothing waits but in the ingress queue. -/
def onDuty (ingress : Queue Frame) (counters : Counters) (caller : Caller) (up down : Stand)
    (receiver : Receiving) : Crew :=
  ⟨lone (alone ingress counters) (.new {}) true [], caller, up, down, receiver⟩

/-- The crew as it starts. -/
def beginning (ingress : QueueConfig) : Crew :=
  onDuty (.new ingress) {} .away .checking .checking .checking

/-- An event of the session for a controller's, as it leaves the session. -/
def event : Frame :=
  ⟨List.replicate 16 0, EventFrame.bytes (.ofParts 1 0 7) (.ofParts 0 1 2) 3 [0x75], []⟩

/-- An event of another node's session for the same one, as it comes over the link. -/
def crossing : List UInt8 :=
  Envelope.sealed ⟨.ofParts 1 5 7, .ofParts 0 1 2⟩
    (EventFrame.bytes (.ofParts 1 5 7) (.ofParts 0 1 2) 3 [0x75])

theorem started_beginning (ingress : QueueConfig) : Started 0 ingress (beginning ingress) where
  started :=
    let fresh : Gateway :=
      { alone (.new ingress) {} with running := false, uplink := .ended, downlink := .ended }
    ⟨(lone fresh (.new {}) false []).setPortState 0 0 .init, rfl⟩
  gateway := ⟨_, 0, rfl, rfl, rfl, Queue.blank_new ingress⟩
  copies := by
    intro i
    match i with
    | 0 =>
      intro h hh p hp k hk
      match h with
      | 0 | 1 => cases hp; cases hk; rfl
      | h + 2 => cases hp
    | i + 1 =>
      intro h hh
      cases hh
  caller := rfl
  workers side := by cases side <;> rfl
  receiver := rfl

theorem roomy_lone (gw : Gateway) (receiving : Bool) (inbox : List (List UInt8)) :
    ((lone gw (.new {}) receiving inbox).node 0).Roomy := by
  intro h p hp
  match h with
  | 0 | 1 => cases hp; rfl
  | h + 2 => cases hp

/-! ## On the way -/

/-- A datagram comes in, and the receiver has it. -/
theorem reaches_pushing (ingress : Queue Frame) (counters : Counters) (caller : Caller)
    (up down : Stand) : Reaches 0 (onDuty ingress counters caller up down .checking)
      (onDuty ingress counters caller up down (.pushing crossing)) := by
  have comes := (Reaches.refl 0 (onDuty ingress counters caller up down .checking)).step
    (.others (.datagrams _ [⟨address, address, crossing⟩]))
  exact (comes.moves (.hearken rfl rfl rfl)).moves (.hearken rfl rfl rfl)

/-- With room in the ingress queue the datagram is queued. -/
theorem reaches_queued {ingress : Queue Frame} (opened : ingress.isClosed = false)
    (room : ingress.isFull = false) (counters : Counters) (caller : Caller) (up down : Stand) :
    Reaches 0 (onDuty ingress counters caller up down .checking)
      (onDuty (ingress.add (.ofBytes crossing)) counters caller up down .checking) := by
  let before : Network := lone (alone ingress counters) (.new {}) true []
  have hears : Network.hear (.gateway 0) crossing before = some (.ok (),
      before.modifyGateway 0 fun gv => { gv with ingress := ingress.add (.ofBytes crossing) }) :=
    Network.hear_of_room (show before.gateways[0]? = some (alone ingress counters) from rfl)
      (Network.sealed_ne_nil _ _) opened room
  have pushes : before.hearken 0 0 (.pushing crossing) = some (.checking,
      lone (alone (ingress.add (.ofBytes crossing)) counters) (.new {}) true []) := by
    rw [Network.hearken, hears]
    rfl
  exact (reaches_pushing ingress counters caller up down).moves (.hearken rfl rfl pushes)

/-- Datagrams fill a bounded queue. -/
theorem reaches_full {ingress : Queue Frame} {bound : Nat} (opened : ingress.isClosed = false)
    (bounded : ingress.capacity = some bound) (counters : Counters) (caller : Caller)
    (up down : Stand) : ∃ full : Queue Frame, full.isClosed = false ∧ full.isFull = true ∧
      Reaches 0 (onDuty ingress counters caller up down .checking)
        (onDuty full counters caller up down .checking) := by
  induction hk : ingress.room using Nat.strongRecOn generalizing ingress with
  | ind k ih =>
    subst hk
    cases room : ingress.isFull with
    | true => exact ⟨ingress, opened, room, .refl 0 _⟩
    | false =>
      have closed : (ingress.add (.ofBytes crossing)).isClosed = false := by
        rw [← Queue.isClosed_blank, Queue.blank_add, Queue.isClosed_blank, opened]
      have capacity : (ingress.add (.ofBytes crossing)).capacity = some bound := by
        rw [← Queue.capacity_blank, Queue.blank_add, Queue.capacity_blank, bounded]
      obtain ⟨full, ok, isFull, fills⟩ := ih _ (Queue.room_add bounded room _) closed capacity rfl
      exact ⟨full, ok, isFull, (reaches_queued opened room counters caller up down).trans fills⟩

/-- The session sends its event, and the uplink worker has it to transmit. -/
theorem reaches_uplink (ingress : Queue Frame) (counters : Counters) (down : Stand)
    (receiver : Receiving) : ∃ datagram,
      Reaches 0 (onDuty ingress counters .away .checking down receiver)
        (onDuty ingress counters .away (.busy event (.transmit .chipRoute datagram false)) down
          receiver) := by
  let gw : Gateway := alone ingress counters
  let before : Network := lone gw (.new {}) true []
  have hop : Gateway.departureHop? .appRoute (.ofParts 0 1 2) = some .chipRoute := by decide
  obtain ⟨datagram, departs, -⟩ := Network.departure_bytes (f := event) rfl (by decide) hop
  have encodes : EventFrame.encode (.ofParts 1 0 7) (.ofParts 0 1 2) 3 [0x75] = .ok event :=
    EventFrame.encode_eq (by decide)
  have sent : (lobby (.new {})).send 1 (.ofParts 0 1 2) event =
    .sent (lobby ((Queue.new {}).add event)) := rfl
  have sends : before.sendEvent ⟨0, .ofParts 1 0 7, 1⟩ (.ofParts 0 1 2) 3 [0x75] =
      some (.ok (), lone gw ((Queue.new {}).add event) true []) := by
    have node : before.node 0 = lobby (.new {}) := rfl
    rw [Network.sendEvent, if_neg (by decide), if_neg (by decide)]
    simp only [encodes, node, sent]
    rfl
  have judges : before.work 0 gw .up (.holding event) =
      some (.busy event (.transmit .chipRoute datagram false), before) := by
    simp only [Network.work, Network.judge, gw, alone, departs]
    rfl
  have arrives := (Reaches.refl 0 (onDuty ingress counters .away .checking down receiver)).step
    (.others (.traffic (.event _ _ _ _ _ sends)))
  have free : Caller.away ≠ .joining := by decide
  have looks := arrives.moves (.free .up rfl free rfl)
  have takes := looks.moves (.free .up rfl free rfl)
  exact ⟨datagram, takes.moves (.free .up rfl free judges)⟩

/-- A datagram for a controller comes in, and the downlink worker has it to transmit. -/
theorem reaches_downlink (config : QueueConfig) (counters : Counters) (up : Stand) :
    ∃ f datagram counters',
      Reaches 0 (onDuty (.new config) counters .away up .checking .checking)
        (onDuty (.new config) counters' .away up (.busy f (.transmit .chipRoute datagram true))
          .checking) := by
  let f : Frame := .ofBytes crossing
  let queued : Gateway := alone ((Queue.new config).add f) counters
  let taken : Gateway := alone (.new config) counters
  let counted : Gateway := alone (.new config) (counters.record (.downlink f.length))
  let network (gw : Gateway) : Network := lone gw (.new {}) true []
  obtain ⟨inner, opened, -, headRoom⟩ := Network.arrival_sealed (f := f) rfl
  have hop : Gateway.hop? .appRoute (.ofParts 0 1 2) = some .chipRoute := by decide
  obtain ⟨datagram, relays, -⟩ := Network.relay_unreachable (lobby (.new {}))
    ⟨.ofParts 1 5 7, .ofParts 0 1 2⟩ headRoom hop rfl
  have takes : (network queued).work 0 queued .down .waiting =
      some (.holding f, network taken) := by
    have pops : (network queued).pop 0 queued .down = (((Queue.new config).add f).poll.1,
      network (alone ((Queue.new config).add f).poll.2 counters)) := rfl
    rw [Network.work, pops, Queue.poll_add_new]
  have resolves : (lobby (.new {})).resolve 0 (.ofParts 0 1 2) =
    .error (.unreachable (.ofParts 0 1 2)) := rfl
  have direct : (network counted).direct 0 taken ⟨.ofParts 1 5 7, .ofParts 0 1 2⟩ inner =
      (some (.transmit .chipRoute datagram true), network counted) := by
    have node : (network counted).node 0 = lobby (.new {}) := rfl
    rw [Network.direct, if_neg (by decide)]
    simp only [taken, alone, node, resolves, relays]
  have judges : (network taken).work 0 taken .down (.holding f) =
      some (.busy f (.transmit .chipRoute datagram true), network counted) := by
    have record : (network taken).record 0 (.downlink f.length) = network counted := rfl
    simp only [Network.work, Network.judge, opened]
    rw [record, direct]
    rfl
  have comes := reaches_queued (Queue.isClosed_new config) (Queue.isFull_new config) counters .away
    up .checking
  have free : Caller.away ≠ .joining := by decide
  have looks := comes.moves (.free .down rfl free rfl)
  have held := looks.moves (.free .down rfl free takes)
  exact ⟨f, datagram, _, held.moves (.free .down rfl free judges)⟩

/-! ## The deadlock -/

/-- With a bound, whatever it is, the stop of that gateway can get stuck. -/
theorem stuck_of_bounded {ingress : QueueConfig} {bound : Nat} (h : ingress.capacity = some bound) :
    ∃ d, Reaches 0 (beginning ingress) d ∧ Stuck 0 d := by
  have bounded : (Queue.new ingress : Queue Frame).capacity = some (max 1 bound) := by
    rw [Queue.capacity_new, QueueConfig.bound, h, Option.map_some]
  obtain ⟨away, up⟩ := reaches_uplink (.new ingress) {} .checking .checking
  obtain ⟨f, onward, counters, down⟩ :=
    reaches_downlink ingress {} (.busy event (.transmit .chipRoute away false))
  obtain ⟨full, opened, isFull, fills⟩ := reaches_full (Queue.isClosed_new ingress) bounded counters
    .away (.busy event (.transmit .chipRoute away false))
    (.busy f (.transmit .chipRoute onward true))
  have waits := ((up.trans down).trans fills).trans (reaches_pushing full counters .away _ _)
  -- the caller finds the gateway running, and stops the link
  have called := waits.moves (.call rfl rfl)
  have joins := called.moves (.call rfl rfl)
  refine ⟨_, joins, ?_⟩
  obtain ⟨gw, s, manned, link, -⟩ := manned_of_started (started_beginning ingress)
  obtain ⟨ts, run⟩ := joins
  obtain ⟨gv, manned, link', -⟩ := manned_of_run manned run
  obtain rfl : alone full counters = gv := Option.some.inj manned.gateway
  refine (stuck_iff manned (link'.trans link)).2
    ⟨rfl, ⟨crossing, rfl, Network.sealed_ne_nil _ _⟩, ⟨opened, isFull⟩, fun side => ?_,
      roomy_lone _ _ _⟩
  cases side <;> exact .inr rfl

/-- A stop on a socket can get stuck if the ingress queue is bounded, in either design and with any
bound, and only then. -/
theorem stuck_reachable_iff (ingress : QueueConfig) :
    (∃ g c d, Started g ingress c ∧ Reaches g c d ∧ Stuck g d) ↔
      ingress.capacity.isSome = true := by
  constructor
  · rintro ⟨g, c, d, start, reached, stuck⟩
    exact bounded_of_stuck start reached stuck
  · intro h
    obtain ⟨bound, h⟩ := Option.isSome_iff_exists.1 h
    obtain ⟨d, reached, stuck⟩ := stuck_of_bounded h
    exact ⟨0, beginning ingress, d, started_beginning ingress, reached, stuck⟩

/-- A bound of one item is enough. -/
theorem stuck_with_one_place : Started 0 ⟨.single, some 1⟩ (beginning ⟨.single, some 1⟩) ∧
    ∃ d, Reaches 0 (beginning ⟨.single, some 1⟩) d ∧ Stuck 0 d :=
  ⟨started_beginning _, stuck_of_bounded rfl⟩

end Crew

end FrameBus
