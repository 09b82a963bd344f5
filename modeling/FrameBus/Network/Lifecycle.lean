import FrameBus.Network.Traffic

/-!
# The life of gateways and sessions

Gateways and sessions are made, started, stopped and dropped. What a step of that does when it fails
is undone, so that nothing stays registered that is not live. A start asks the host for threads, and
is undone also if it does not get them. A stop has four parts, which other moves may come between:
the link stops, the flag is cleared, the port is disconnected, and the workers end.
-/

namespace FrameBus

/-! ## Threads -/

namespace ThreadFault

/-- The failure of a start whose worker has no thread. -/
def failure (worker : String) : ThreadFault → BusError
  | .refused reason => .spawn reason
  | .lost => .spawn (worker ++ " worker exited during startup")

/-- Where a worker stands that was to get a thread. -/
def outcome : ThreadFault → Worker → Worker
  | .refused _, w => w
  | .lost, _ => .ended

end ThreadFault

namespace Network

/-! ## Links -/

/-- The answer of an operation that was done on a link with faults. -/
def refused (fault : Bool) (text : String) : Except BusError Unit :=
  if fault then .error (.transport text) else .ok ()

def initLink (n : Network) (link : Link) (id : PortId) : Except BusError Unit × Link × Network :=
  match link with
  | .member h endpoint faults =>
    match (n.hub h).init endpoint id with
    | .error e => (.error e, link, n)
    | .ok (hub, endpoint) =>
      (refused faults.init "init refused", .member h endpoint faults, n.setHub h hub)
  | .datagram s =>
    match n.sockets[s]? with
    | none => (.error .notRunning, link, n)
    | some socket =>
      match socket.init id with
      | .error e => (.error e, link, n)
      | .ok socket => (.ok (), link, n.modifySocket s fun _ => socket)

def hookLink (n : Network) (link : Link) (k : Receiver) : Link × Network :=
  match link with
  | .member h endpoint faults =>
    let (hub, endpoint) := (n.hub h).setHook endpoint k
    (.member h endpoint faults, n.setHub h hub)
  | .datagram s => (link, n.modifySocket s fun socket => { socket with hooked := true })

def startLink (n : Network) (link : Link) : Except BusError Unit × Network :=
  match link with
  | .member h endpoint faults =>
    match (n.hub h).start endpoint with
    | .error e => (.error e, n)
    | .ok hub => (refused faults.start "start refused", n.setHub h hub)
  | .datagram s =>
    match n.sockets[s]? with
    | none => (.error .notRunning, n)
    | some socket =>
      match socket.start with
      | .error e => (.error e, n)
      | .ok socket => (.ok (), n.modifySocket s fun _ => socket)

/-- Starts the link of a gateway. The receiver of a socket needs a thread. -/
def startReceiver (n : Network) (link : Link) (refusal : Option String) :
    Except BusError Unit × Network :=
  match link, refusal with
  | .datagram _, some reason => ((n.startLink link).1.bind fun _ => .error (.spawn reason), n)
  | _, _ => n.startLink link

def stopLink (n : Network) (link : Link) : Except BusError Unit × Network :=
  match link with
  | .member h endpoint faults =>
    (refused faults.stop "stop refused", n.setHub h ((n.hub h).stop endpoint))
  | .datagram s => (.ok (), n.modifySocket s Datagram.Socket.stop)

def exitLink (n : Network) (link : Link) : Link × Network :=
  match link with
  | .member h endpoint faults =>
    let (hub, endpoint) := (n.hub h).exit endpoint
    (.member h endpoint faults, n.setHub h hub)
  | .datagram s => (link, n.modifySocket s Datagram.Socket.exit)

/-! ## Gateways -/

/-- Makes a gateway: its port is registered and its link is bound to its id. -/
def createGateway (n : Network) (node : Nat) (id : PortId) (link : Link) (ingress : QueueConfig) :
    Except BusError Nat × Network :=
  if id.isReserved then (.error (.invalidPortId id), n)
  else
    match (n.node node).createPort id with
    | .error e => (.error e, n)
    | .ok (port, r) =>
      let (result, link, m) := (n.setNode node (r.setReaction port .copy)).initLink link id
      match result with
      | .error e =>
        let r := m.node node
        let m := m.setNode node ((r.destroyPort id).toOption.getD r)
        (.error e, (m.exitLink link).2)
      | .ok () =>
        let g := m.gateways.length
        let (link, m) := m.hookLink link (.gateway g)
        (.ok g, { m with
          gateways := m.gateways ++ [{ node, id, port, link, ingress := .new ingress }] })

def setPortState (n : Network) (node : Nat) (port : Handle) (s : PortState) : Network :=
  n.setNode node ((n.node node).setState port s)

/-- Lets the workers of a gateway run until they have ended, or wait. -/
def joinGateway (g : Nat) : (fuel : Nat) → Network → Network
  | 0, n => n
  | fuel + 1, n =>
    match (n.moveUplink g).or (n.moveDownlink g) with
    | some n => joinGateway g fuel n
    | none => n

/-- Clears the flag that the workers of a gateway look at. -/
def clearGateway (n : Network) (g : Nat) : Network :=
  n.modifyGateway g fun gw => { gw with running := false }

/-- Clears the flag, disconnects the port and waits for the workers. -/
def haltGateway (n : Network) (g : Nat) (gw : Gateway) : Network :=
  joinGateway g 64 ((n.clearGateway g).setPortState gw.node gw.port .disconn)

/-- Makes the threads of a gateway's workers. The uplink's connects the port, and the downlink's is
made when that one is ready. -/
def spawnWorkers (n : Network) (g : Nat) (gw : Gateway) (threads : Threads) :
    Except BusError Unit × Network :=
  match threads.uplink with
  | some fault =>
    (.error (fault.failure "uplink"),
      n.modifyGateway g fun gw => { gw with uplink := fault.outcome gw.uplink })
  | none =>
    let n := n.modifyGateway g fun gw => { gw with uplink := .polling }
    let n := n.setPortState gw.node gw.port .conn
    match threads.downlink with
    | some fault =>
      (.error (fault.failure "downlink"),
        n.modifyGateway g fun gw => { gw with downlink := fault.outcome gw.downlink })
    | none => (.ok (), n.modifyGateway g fun gw => { gw with downlink := .polling })

/-- Makes the threads of a gateway's workers, and starts its link when both are ready. -/
def launchGateway (n : Network) (g : Nat) (gw : Gateway) (threads : Threads) :
    Except BusError Unit × Network :=
  match n.spawnWorkers g gw threads with
  | (.error e, n) => (.error e, n)
  | (.ok (), n) => n.startReceiver gw.link threads.receiver

/-- Starts a gateway: its workers run before the link starts. They end if one of them has no thread,
or if the link fails to start. -/
def startGateway (n : Network) (g : Nat) (threads : Threads) : Except BusError Unit × Network :=
  match n.gateways[g]? with
  | none => (.error .notRunning, n)
  | some gw =>
    if gw.running then (.error .alreadyRunning, n)
    else
      let n := n.modifyGateway g fun gw => { gw with running := true }
      match n.launchGateway g gw threads with
      | (.ok (), n) => (.ok (), n)
      | (.error e, n) => (.error e, (joinGateway g 64 n).haltGateway g gw)

/-- Stops a gateway; it is stopped also when the link complains. -/
def stopGateway (n : Network) (g : Nat) : Except BusError Unit × Network :=
  match n.gateways[g]? with
  | none => (.error .notRunning, n)
  | some gw =>
    if !gw.running then (.error .notRunning, n)
    else
      let (result, n) := n.stopLink gw.link
      (result, n.haltGateway g gw)

/-- Drops a gateway: it stops, leaves its link, and its id is taken out of the registry. -/
def dropGateway (n : Network) (g : Nat) : Network :=
  match n.gateways[g]? with
  | none => n
  | some gw =>
    let n := (n.stopGateway g).2
    let (link, n) := n.exitLink gw.link
    let n := n.modifyGateway g fun gw =>
      { gw with link, ingress := gw.ingress.close, live := false }
    let r := n.node gw.node
    n.setNode gw.node ((r.destroyPort gw.id).toOption.getD r)

/-! ## Sessions -/

/-- Makes a session: its id is claimed and its port registered. -/
def createSession (n : Network) (node : Nat) (id : PortId) : Except BusError Nat × Network :=
  if id.isReserved then (.error (.invalidPortId id), n)
  else
    match (n.node node).claimSession id with
    | .error e => (.error e, n)
    | .ok r =>
      match r.createPort id with
      | .error e => (.error e, n.setNode node (r.releaseSession id).2)
      | .ok (port, r) =>
        let n := n.setNode node (r.setReaction port .copy)
        (.ok n.sessions.length, { n with sessions := n.sessions ++ [{ node, id, port }] })

/-- Lets the worker of a session run until it has ended. -/
def joinSession (i : Nat) : (fuel : Nat) → Network → Network
  | 0, n => n
  | fuel + 1, n =>
    match n.moveSession i with
    | some n => joinSession i fuel n
    | none => n

/-- Clears the flag, disconnects the port and waits for the worker. -/
def haltSession (n : Network) (i : Nat) (s : Session) : Network :=
  let n := n.modifySession i fun s => { s with running := false }
  joinSession i 64 (n.setPortState s.node s.port .disconn)

/-- Starts a session: its worker connects the port. Without a thread for the worker nothing was
started, and a thread that is lost is waited for. -/
def startSession (n : Network) (i : Nat) (threads : Threads) : Except BusError Unit × Network :=
  match n.sessions[i]? with
  | none => (.error .notRunning, n)
  | some s =>
    if s.running then (.error .alreadyRunning, n)
    else
      let n := n.modifySession i fun s => { s with running := true }
      match threads.worker with
      | none =>
        let n := n.modifySession i fun s => { s with worker := .polling }
        (.ok (), n.setPortState s.node s.port .conn)
      | some fault =>
        let n := n.modifySession i fun s => { s with worker := fault.outcome s.worker }
        (.error (fault.failure "event"), match fault with
          | .refused _ => n.modifySession i fun s => { s with running := false }
          | .lost => n.haltSession i s)

def stopSession (n : Network) (i : Nat) : Except BusError Unit × Network :=
  match n.sessions[i]? with
  | none => (.error .notRunning, n)
  | some s => if !s.running then (.error .notRunning, n) else (.ok (), n.haltSession i s)

/-- Drops a session: it stops, and its id is taken out of the registry and given up. -/
def dropSession (n : Network) (i : Nat) : Network :=
  match n.sessions[i]? with
  | none => n
  | some s =>
    let n := (n.stopSession i).2
    let n := n.modifySession i fun s => { s with live := false }
    let r := n.node s.node
    let r := (r.destroyPort s.id).toOption.getD r
    n.setNode s.node (r.releaseSession s.id).2

/-! ## Listeners -/

/-- Makes a listener on a hub: it joins under its id and starts. -/
def createListener (n : Network) (hub : Nat) (id : PortId) : Except BusError Unit × Nat × Network :=
  let l := n.listeners.length
  let add (n : Network) (endpoint : Hub.Endpoint Receiver) : Network :=
    { n with listeners := n.listeners ++ [⟨id, hub, endpoint⟩] }
  match (n.hub hub).init { hook := some (.listener l) } id with
  | .error e => (.error e, l, add n { hook := some (.listener l) })
  | .ok (h, endpoint) =>
    let (result, n) := (n.setHub hub h).startLink (.member hub endpoint {})
    (result, l, add n endpoint)

/-- A listener leaves its hub. -/
def exitListener (n : Network) (l : Nat) : Network :=
  match n.listeners[l]? with
  | none => n
  | some listener =>
    let (hub, endpoint) := (n.hub listener.hub).exit listener.endpoint
    let n := n.setHub listener.hub hub
    { n with listeners := n.listeners.set l { listener with endpoint } }

/-- A listener sends bytes as they are. -/
def listenerSend (n : Network) (l : Nat) (dest : PortId) (bytes : List UInt8) :
    Option (Except BusError Unit × Network) := do
  let listener ← n.listeners[l]?
  n.transfer (.member listener.hub listener.endpoint {}) dest bytes

end Network

end FrameBus
