import FrameBus.Gateway.Forwarding
import FrameBus.Network.Basic

/-!
# Traffic on a network

What the workers do, one move at a time. A move is nothing (`none`) while the worker has nothing to
do, or has to wait for room in a bounded queue. `settle` makes moves until there is none to make.
-/

namespace FrameBus.Network

/-! ## Links -/

/-- A hub's frame comes to one who hears it. -/
def hear : Receiver → List UInt8 → Network → Option (Except BusError Unit × Network)
  | .listener l, bytes, n =>
    match n.listeners[l]? with
    | none => some (.ok (), n)
    | some listener => some (.ok (), n.write (.heard listener.id bytes))
  | .gateway g, bytes, n =>
    match n.gateways[g]? with
    | none => some (.error .queueClosed, n)
    | some gw =>
      if bytes.isEmpty then some (.error (.malformed "empty datagram"), n)
      else
        match gw.ingress.offer (.ofBytes bytes) with
        | .accepted q => some (.ok (), n.modifyGateway g fun gw => { gw with ingress := q })
        | .closed => some (.error .queueClosed, n)
        | .full => none

/-- Datagrams go to the sockets that have their addresses. -/
def carry (n : Network) (packets : List Datagram.Packet) : Network :=
  { n with sockets := n.sockets.map fun s => packets.foldl Datagram.Socket.arrive s }

/-- Sends bytes over a link. -/
def transfer (n : Network) (link : Link) (dest : PortId) (bytes : List UInt8) :
    Option (Except BusError Unit × Network) :=
  match link with
  | .member h endpoint _ =>
    match (n.hub h).route endpoint dest with
    | .error e => some (.error e, n)
    | .ok hooks => Hub.deliver hear dest bytes hooks n
  | .datagram s =>
    match n.sockets[s]? with
    | none => some (.error .notRunning, n)
    | some socket =>
      match socket.packets n.host dest bytes with
      | .error e => some (.error e, n)
      | .ok packets => some (.ok (), n.carry packets)

/-- A gateway sends a sealed frame and counts it. -/
def transmit (n : Network) (g : Nat) (hop : PortId) (datagram : Frame) (relayed : Bool) :
    Option Network := do
  let gw ← n.gateways[g]?
  let (result, n) ← n.transfer gw.link hop datagram.window
  let n := n.write (.transmitted gw.id hop datagram.window result)
  match result with
  | .error _ => return n.record g .sendError
  | .ok () =>
    let n := n.record g (.uplink datagram.length)
    return if relayed then n.record g .relayed else n

/-! ## Gateways -/

/-- A frame of the gateway's port is handled. -/
def handleUplink (n : Network) (g : Nat) (f : Frame) : Option Network := do
  let gw ← n.gateways[g]?
  match Gateway.departure gw.id f with
  | .malformed => return n.record g .malformed
  | .unroutable => return n.record g .unroutable
  | .leaves hop datagram => n.transmit g hop datagram false

/-- A frame that is not for everyone is handed to a local port, or sent on. -/
def handleUnicast (n : Network) (g : Nat) (gw : Gateway) (route : Addresses) (inner : Frame) :
    Option Network :=
  let r := n.node gw.node
  match r.send gw.port route.dest inner with
  | .sent r => some ((n.setNode gw.node r).record g .delivered)
  | .waiting _ _ => none
  | .returned why =>
    match Gateway.relay gw.id r route why with
    | .undeliverable => some (n.record g .undeliverable)
    | .malformed => some (n.record g .malformed)
    | .leaves hop datagram => n.transmit g hop datagram true

/-- A frame of the ingress queue is handled. -/
def handleDownlink (n : Network) (g : Nat) (f : Frame) : Option Network := do
  let gw ← n.gateways[g]?
  match Gateway.arrival f with
  | .integrityFailure => return n.record g .integrityFailure
  | .malformed => return n.record g .malformed
  | .opened route inner =>
    let n := n.record g (.downlink f.length)
    if route.dest.isBroadcast then
      match ← (n.node gw.node).broadcast Reaction.run gw.port inner with
      | .ok o => return (n.setNode gw.node o.after).record g (.broadcast o.accepted)
      | .error _ => return n.record g .undeliverable
    else n.handleUnicast g gw route inner

/-! ## Sessions -/

/-- The part of a session that outlives it: enough to send in its name. -/
structure Sender where
  node : Nat
  id : PortId
  port : Handle
deriving DecidableEq, Repr

/-- Sends an event to one session. -/
def sendEvent (n : Network) (s : Sender) (dest : PortId) (event : UInt32) (payload : List UInt8) :
    Option (Except BusError Unit × Network) :=
  if dest.isBroadcast then
    some (.error (.invalidArgument "broadcast destination requires broadcast()"), n)
  else if dest.isReserved then some (.error (.invalidPortId dest), n)
  else
    match EventFrame.encode s.id dest event payload with
    | .error e => some (.error e, n)
    | .ok f =>
      match (n.node s.node).send s.port dest f with
      | .sent r => some (.ok (), n.setNode s.node r)
      | .returned why => some (.error why.error, n)
      | .waiting _ _ => none

/-- Sends an event to every other session; answers how many local ports took it. -/
def broadcastEvent (n : Network) (s : Sender) (event : UInt32) (payload : List UInt8) :
    Option (Except BusError Nat × Network) :=
  match EventFrame.encode s.id .broadcast event payload with
  | .error e => some (.error e, n)
  | .ok f =>
    match (n.node s.node).broadcast Reaction.run s.port f with
    | none => none
    | some (.error e) => some (.error e, n)
    | some (.ok o) => some (.ok o.accepted, n.setNode s.node o.after)

/-- A handler answers what it received. -/
def respond (n : Network) (s : Sender) (r : Response) (what : EventTable.Received) :
    Option (Deed × Network) :=
  let send dest event payload :=
    (n.sendEvent s dest event payload).map fun (result, n) => (Deed.sent result, n)
  match r with
  | .log => some (.nothing, n)
  | .echo event => send what.source event what.payload
  | .reverse event => send what.source event what.payload.reverse
  | .forward event dest => send dest event what.payload
  | .countdown event =>
    match what.payload with
    | [] => some (.nothing, n)
    | b :: _ => if b = 0 then some (.nothing, n) else send what.source event [b - 1]
  | .broadcast event =>
    (n.broadcastEvent s event what.payload).map fun (result, n) => (.broadcast result, n)

def Sender.ofSession (s : Session) : Sender := ⟨s.node, s.id, s.port⟩

/-- A frame of a session's port is handled. -/
def handleEvent (n : Network) (i : Nat) (f : Frame) : Option Network := do
  let s ← n.sessions[i]?
  match s.table.dispatch f with
  | none => return n
  | some (r, what) =>
    let (deed, n) ← n.respond (.ofSession s) r what
    return n.write (.handled i what deed)

/-! ## Moves -/

/-- What can move by itself. -/
inductive Move where
  | uplink (g : Nat)
  | downlink (g : Nat)
  | session (s : Nat)
  | socket (s : Nat)
deriving DecidableEq, Repr

/-- A worker that polls a port: it takes a frame, ends, or waits. -/
def pollPort (n : Network) (node : Nat) (port : Handle) (running : Bool) :
    Option (Worker × Network) :=
  let (popped, r) := (n.node node).receive port
  match popped with
  | .item f => some (.holding f, n.setNode node r)
  | .closed => some (.ended, n)
  | .timedOut => if running then none else some (.ended, n)

/-- Where a worker stands after it handled a frame. -/
def afterHandling (running : Bool) : Worker := if running then .polling else .ended

def moveUplink (n : Network) (g : Nat) : Option Network := do
  let gw ← n.gateways[g]?
  match gw.uplink with
  | .ended => none
  | .polling =>
    let (w, n) ← n.pollPort gw.node gw.port gw.running
    return n.modifyGateway g fun gw => { gw with uplink := w }
  | .holding f =>
    let n ← n.handleUplink g f
    return n.modifyGateway g fun gw => { gw with uplink := afterHandling gw.running }

def moveDownlink (n : Network) (g : Nat) : Option Network := do
  let gw ← n.gateways[g]?
  match gw.downlink with
  | .ended => none
  | .polling =>
    let (popped, q) := gw.ingress.poll
    match popped with
    | .item f => return n.modifyGateway g fun gw => { gw with ingress := q, downlink := .holding f }
    | .closed => return n.modifyGateway g fun gw => { gw with downlink := .ended }
    | .timedOut =>
      if gw.running then none else return n.modifyGateway g fun gw => { gw with downlink := .ended }
  | .holding f =>
    let n ← n.handleDownlink g f
    return n.modifyGateway g fun gw => { gw with downlink := afterHandling gw.running }

def moveSession (n : Network) (i : Nat) : Option Network := do
  let s ← n.sessions[i]?
  match s.worker with
  | .ended => none
  | .polling =>
    let (w, n) ← n.pollPort s.node s.port s.running
    return n.modifySession i fun s => { s with worker := w }
  | .holding f =>
    let n ← n.handleEvent i f
    return n.modifySession i fun s => { s with worker := afterHandling s.running }

/-- The gateway that a socket belongs to. -/
def owner? (n : Network) (s : Nat) : Option Nat :=
  n.gateways.findIdx? fun gw =>
    gw.live && match gw.link with
    | .datagram t => t == s
    | .member _ _ _ => false

/-- A socket's receiver hands a datagram to the gateway; an empty one is passed over. -/
def moveSocket (n : Network) (s : Nat) : Option Network := do
  let socket ← n.sockets[s]?
  let (bytes, socket) ← socket.take?
  let n := n.modifySocket s fun _ => socket
  if bytes.isEmpty then return n
  else
    let g ← n.owner? s
    let (_, n) ← hear (.gateway g) bytes n
    return n

def move (n : Network) : Move → Option Network
  | .uplink g => n.moveUplink g
  | .downlink g => n.moveDownlink g
  | .session s => n.moveSession s
  | .socket s => n.moveSocket s

def moves (n : Network) : List Move :=
  (List.range n.gateways.length).flatMap (fun g => [.downlink g, .uplink g]) ++
    (List.range n.sessions.length).map .session ++ (List.range n.sockets.length).map .socket

/-- Makes moves while there are any, at most `fuel` of them. -/
def settle : (fuel : Nat) → Network → Network
  | 0, n => n
  | fuel + 1, n =>
    match n.moves.findSome? n.move with
    | some n => settle fuel n
    | none => n

end FrameBus.Network
