import FrameBus.Counters
import FrameBus.Link.Datagram
import FrameBus.Link.Hub
import FrameBus.Registry.Reaction
import FrameBus.Session.Table

/-!
# Networks

Nodes with a registry each, gateways that join nodes over a hub or over datagrams, and event
sessions. Gateways and sessions have workers, each of which takes a frame from a queue and then
handles it; between the two the frame is in the worker's hand. Things are known by their place in
the network's lists, and stay there when they are dropped.
-/

namespace FrameBus

/-- Where a worker stands. -/
inductive Worker where
  | ended
  /-- looks at its queue, or waits there -/
  | polling
  | holding (f : Frame)
deriving DecidableEq, Repr

/-- Who hears the frames of a hub. -/
inductive Receiver where
  | gateway (g : Nat)
  | listener (l : Nat)
deriving DecidableEq, Repr

/-- Operations of a link that fail after they are done. -/
structure Faults where
  init : Bool := false
  start : Bool := false
  stop : Bool := false
  exit : Bool := false
deriving DecidableEq, Repr

inductive Link where
  | member (hub : Nat) (endpoint : Hub.Endpoint Receiver) (faults : Faults)
  | datagram (socket : Nat)

structure Gateway where
  node : Nat
  id : PortId
  port : Handle
  link : Link
  ingress : Queue Frame
  running : Bool := false
  /-- takes from the gateway's port -/
  uplink : Worker := .ended
  /-- takes from the ingress queue -/
  downlink : Worker := .ended
  counters : Counters := {}
  live : Bool := true

/-- What a session's handler does with an event. -/
inductive Response where
  | log
  /-- sends the payload back as another event -/
  | echo (event : UInt32)
  /-- sends the payload back in reverse -/
  | reverse (event : UInt32)
  /-- sends the payload to another session -/
  | forward (event : UInt32) (dest : PortId)
  /-- sends back one less than the first byte, until that is 0 -/
  | countdown (event : UInt32)
  | broadcast (event : UInt32)
deriving DecidableEq, Repr

structure Session where
  node : Nat
  id : PortId
  port : Handle
  table : EventTable Response := []
  running : Bool := false
  worker : Worker := .ended
  live : Bool := true

/-- An endpoint of a hub that only writes down what it hears. -/
structure Listener where
  id : PortId
  hub : Nat
  endpoint : Hub.Endpoint Receiver

/-- What came of a handler's response. -/
inductive Deed where
  | nothing
  | sent (result : Except BusError Unit)
  | broadcast (result : Except BusError Nat)

/-- What an observer of the network sees. -/
inductive Happening where
  | handled (session : Nat) (what : EventTable.Received) (deed : Deed)
  | transmitted (gateway hop : PortId) (bytes : List UInt8) (result : Except BusError Unit)
  | heard (listener : PortId) (bytes : List UInt8)
  /-- nothing is left to do for a time, in microseconds -/
  | passed (time : Nat)

structure Network where
  host : Host
  nodes : List (Registry Reaction) := []
  hubs : List (Hub Receiver) := []
  sockets : List Datagram.Socket := []
  gateways : List Gateway := []
  sessions : List Session := []
  listeners : List Listener := []
  /-- the latest first -/
  log : List Happening := []

namespace Network

def node (n : Network) (i : Nat) : Registry Reaction := n.nodes.getD i (.new {})

def setNode (n : Network) (i : Nat) (r : Registry Reaction) : Network :=
  { n with nodes := n.nodes.set i r }

def hub (n : Network) (i : Nat) : Hub Receiver := n.hubs.getD i .empty

def setHub (n : Network) (i : Nat) (h : Hub Receiver) : Network := { n with hubs := n.hubs.set i h }

def modifyGateway (n : Network) (g : Nat) (f : Gateway → Gateway) : Network :=
  { n with gateways := n.gateways.modify g f }

def modifySession (n : Network) (s : Nat) (f : Session → Session) : Network :=
  { n with sessions := n.sessions.modify s f }

def modifySocket (n : Network) (s : Nat) (f : Datagram.Socket → Datagram.Socket) : Network :=
  { n with sockets := n.sockets.modify s f }

def record (n : Network) (g : Nat) (t : Tally) : Network :=
  n.modifyGateway g fun gw => { gw with counters := gw.counters.record t }

def write (n : Network) (h : Happening) : Network := { n with log := h :: n.log }

end Network

end FrameBus
