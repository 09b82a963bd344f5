import FrameBus.Network.Lifecycle

/-!
# Stations

A station is a node of its own with one gateway on a datagram link.
-/

namespace FrameBus.Network

structure Station where
  node : Nat
  gateway : Nat
  /-- where the gateway's socket is bound -/
  address : SocketAddress
deriving Repr

/-- Binds a socket and registers a gateway on a new node. -/
def createStation (n : Network) (id : PortId) (queue ingress : QueueConfig)
    (udp : Datagram.Config) : Except BusError Station × Network :=
  match Datagram.Socket.create n.host udp with
  | .error e => (.error e, n)
  | .ok socket =>
    let node := n.nodes.length
    let m : Network :=
      { n with nodes := n.nodes ++ [.new queue], sockets := n.sockets ++ [socket] }
    match m.createGateway node id (.datagram n.sockets.length) ingress with
    | (.error e, m) => (.error e, m)
    | (.ok gateway, m) => (.ok ⟨node, gateway, socket.address⟩, m)

/-- The counters of a station's gateway. -/
def countersOf (n : Network) (s : Station) : Counters :=
  ((n.gateways[s.gateway]?).map Gateway.counters).getD {}

end FrameBus.Network
