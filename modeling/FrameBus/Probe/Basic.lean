import FrameBus.Network.Station
import FrameBus.Probe.Payload

/-!
# The probe

A probe is a station with one session. The station's gateway is the one that serves the session,
unless another one is asked for.
-/

namespace FrameBus

structure Probe where
  station : Network.Station
  session : Nat
deriving Repr

namespace Probe

/-! ## Events -/

def pingEvent : UInt32 := 0x70500001

def pongEvent : UInt32 := 0x70500002

/-! ## Opening -/

inductive OpenError where
  | peer (error : Peer.ReadError)
  | bus (error : BusError)
deriving DecidableEq, Repr

def OpenError.message : OpenError → String
  | .peer error => error.message
  | .bus error => error.message

/-- Makes a station, starts its gateway and makes the session. -/
def create (n : Network) (id : PortId) (gateway : Option PortId) (bind : SocketAddress)
    (peers : List String) : Except OpenError Probe × Network :=
  match peers.mapM Peer.read with
  | .error e => (.error (.peer e), n)
  | .ok peers =>
    match n.createStation (gateway.getD (Route.servingGateway id)) {} {} { bind, peers } with
    | (.error e, n) => (.error (.bus e), n)
    | (.ok station, n) =>
      match n.startGateway station.gateway n.host.threads with
      | (.error e, n) => (.error (.bus e), n.dropGateway station.gateway)
      | (.ok (), n) =>
        match n.createSession station.node id with
        | (.error e, n) => (.error (.bus e), n.dropGateway station.gateway)
        | (.ok session, n) => (.ok ⟨station, session⟩, n)

/-- Attaches a handler to the session. -/
def attach (n : Network) (p : Probe) (event : UInt32) (k : Response) : Network :=
  n.modifySession p.session fun s => { s with table := s.table.attach event k }

/-- Starts the session. -/
def start (n : Network) (p : Probe) : Except BusError Unit × Network :=
  n.startSession p.session n.host.threads

/-- The session sends an event. -/
def send (n : Network) (p : Probe) (dest : PortId) (event : UInt32) (payload : List UInt8) :
    Option (Except BusError Unit × Network) :=
  match n.sessions[p.session]? with
  | none => some (.error .notRunning, n)
  | some s => n.sendEvent (.ofSession s) dest event payload

/-- The session sends an event to everyone. -/
def broadcast (n : Network) (p : Probe) (event : UInt32) (payload : List UInt8) :
    Option (Except BusError Nat × Network) :=
  match n.sessions[p.session]? with
  | none => some (.error .notRunning, n)
  | some s => n.broadcastEvent (.ofSession s) event payload

/-- What the session's handlers did, in order. -/
def deeds (n : Network) (p : Probe) : List (EventTable.Received × Deed) :=
  n.log.reverse.filterMap fun h =>
    match h with
    | .handled s what deed => if s = p.session then some (what, deed) else none
    | _ => none

/-- The line of counters that a probe ends with. -/
def trailer (c : Counters) : String :=
  "--- gateway: " ++ Numeral.decimal c.uplinkFrames.toNat ++ " up, " ++
    Numeral.decimal c.downlinkFrames.toNat ++ " down, " ++ Numeral.decimal c.dropped.toNat ++
    " dropped\n"

end Probe

end FrameBus
