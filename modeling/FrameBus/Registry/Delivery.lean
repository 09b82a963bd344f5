import FrameBus.Registry.Basic

/-!
# Delivery between the ports of a node

A frame goes to the port that is registered as its destination, or else to the next hop toward it.
Sender and target have to be connected. Sending has two parts, between which other calls may run:
`resolve` picks the target, `enqueue` puts the frame there, and waits while a bounded queue is
full.

A broadcast takes note of its recipients first and runs their reactions afterwards, whatever these
do to the registry.
-/

namespace FrameBus.Registry

variable {κ : Type}

/-! ## Queues -/

/-- Puts a frame at a port. -/
def enqueue (r : Registry κ) (h : Handle) (f : Frame) : Offer (Registry κ) :=
  match r.port? h with
  | none => .closed
  | some p =>
    match p.queue.offer f with
    | .accepted q => .accepted (r.modify h fun p => { p with queue := q })
    | .closed => .closed
    | .full => .full

/-- Takes the oldest frame of a port without waiting. -/
def receive (r : Registry κ) (h : Handle) : Popped Frame × Registry κ :=
  match r.port? h with
  | none => (.closed, r)
  | some p =>
    let (popped, q) := p.queue.poll
    (popped, r.modify h fun p => { p with queue := q })

/-! ## Sending -/

/-- The port that serves a destination: its own, or the next hop's unless that is the sender. -/
def target? (r : Registry κ) (sender : PortId) (dest : PortId) : Option Handle :=
  (r.find? dest).or
    (((Route.nextHop? sender dest).filter fun hop => hop != sender).bind r.find?)

/-- The connected port that a frame of a connected sender goes to. -/
def resolve (r : Registry κ) (sender : Handle) (dest : PortId) : Except BusError Handle :=
  if dest.isReserved then .error (.invalidPortId dest)
  else if !r.isConnected sender then .error (.notConnected (r.idOf sender))
  else
    match r.target? (r.idOf sender) dest with
    | none => .error (.unreachable dest)
    | some h => if r.isConnected h then .ok h else .error (.notConnected (r.idOf h))

/-- How far a send comes when nobody else moves. -/
inductive Sending (κ : Type) where
  | sent (after : Registry κ)
  /-- handed back, the registry as it was -/
  | returned (why : Rejected)
  /-- the frame waits for room at a port -/
  | waiting (target : Handle) (frame : Frame)

/-- The second part of a send. -/
def deliver (r : Registry κ) (target : Handle) (f : Frame) : Sending κ :=
  match r.enqueue target f with
  | .accepted r => .sent r
  | .closed => .returned ⟨.queueClosed, f⟩
  | .full => .waiting target f

def send (r : Registry κ) (sender : Handle) (dest : PortId) (f : Frame) : Sending κ :=
  match r.resolve sender dest with
  | .ok target => r.deliver target f
  | .error e => .returned ⟨e, f⟩

/-! ## Broadcasting -/

/-- A reaction as it is run: at a port, on a frame; nothing if it never comes back. -/
abbrev Runner (κ : Type) :=
  κ → Handle → Frame → Registry κ → Option (Except BusError Unit × Registry κ)

/-- The other connected ports that have a reaction, each with the reaction it has now. -/
def recipients (r : Registry κ) (sender : PortId) : List (Handle × κ) :=
  r.registered.filterMap fun h =>
    match r.port? h with
    | some p => if p.id != sender && p.isConnected then p.reaction.map fun k => (h, k) else none
    | none => none

/-- The reactions that ran, in order, and what they left. -/
structure Outcome (κ : Type) where
  calls : List (Handle × Except BusError Unit)
  after : Registry κ

/-- How many reactions took the frame. -/
def Outcome.accepted (o : Outcome κ) : Nat := o.calls.countP fun c => c.2.isOk

def runAll (run : Runner κ) (f : Frame) : List (Handle × κ) → Registry κ → Option (Outcome κ)
  | [], r => some ⟨[], r⟩
  | (h, k) :: rest, r => do
    let (result, r) ← run k h f r
    let o ← runAll run f rest r
    return { o with calls := (h, result) :: o.calls }

/-- Runs the reactions of the ports that are recipients when the call begins. -/
def broadcast (run : Runner κ) (r : Registry κ) (sender : Handle) (f : Frame) :
    Option (Except BusError (Outcome κ)) :=
  if r.isConnected sender then (runAll run f (r.recipients (r.idOf sender)) r).map .ok
  else some (.error (.notConnected (r.idOf sender)))

/-- Puts a copy of a frame at a port. -/
def enqueueCopy (r : Registry κ) (h : Handle) (f : Frame) :
    Option (Except BusError Unit × Registry κ) :=
  match r.enqueue h f.duplicate with
  | .accepted r => some (.ok (), r)
  | .closed => some (.error .queueClosed, r)
  | .full => none

/-! ## Lemmas -/

/-- A target is always connected. -/
theorem isConnected_of_resolve {r : Registry κ} {sender target : Handle} {dest : PortId}
    (h : r.resolve sender dest = .ok target) : r.isConnected target = true := by
  simp only [resolve] at h
  split at h
  · cases h
  · split at h
    · cases h
    · split at h
      · cases h
      · split at h
        · next hc => cases h; exact hc
        · cases h

end FrameBus.Registry
