import FrameBus.Error.Bus
import FrameBus.Link.Host

/-!
# Datagram links

A socket with a table of peers. A frame to a peer is one datagram; a broadcast goes to every peer
but the link itself, and failures of single datagrams do not fail it. What arrives waits at the
socket until the link's receiver takes it.
-/

namespace FrameBus.Datagram

/-- The most bytes of one datagram. -/
def sizeLimit : Nat := 65507

structure Config where
  bind : SocketAddress := .v4 ⟨0, 0, 0, 0⟩ 7600
  peers : List Peer := []
  /-- how long the receiver waits before it looks at its flag again -/
  readTimeoutMs : Nat := 50
deriving DecidableEq, Repr

structure Socket where
  /-- the address that the host gave -/
  address : SocketAddress
  peers : List Peer
  id : Option PortId := none
  /-- whether a hook for received bytes is installed -/
  hooked : Bool := false
  receiving : Bool := false
  /-- datagrams that the receiver has not taken -/
  inbox : List (List UInt8) := []
deriving Repr

/-- A datagram on its way. -/
structure Packet where
  source : SocketAddress
  dest : SocketAddress
  bytes : List UInt8
deriving DecidableEq, Repr

namespace Socket

def create (host : Host) (config : Config) : Except BusError Socket :=
  match host.bind config.bind with
  | .ok address => .ok { address, peers := config.peers }
  | .error e => .error (.io e)

/-- Adds a peer at the end, in place of one with its id. -/
def addPeer (s : Socket) (p : Peer) : Socket :=
  { s with peers := (s.peers.filter fun q => q.id != p.id) ++ [p] }

def init (s : Socket) (id : PortId) : Except BusError Socket :=
  if id.isReserved then .error (.invalidPortId id) else .ok { s with id := some id }

def start (s : Socket) : Except BusError Socket :=
  if s.id.isNone then .error .notRunning
  else if s.receiving then .error .alreadyRunning
  else if !s.hooked then .error (.invalidArgument "no receive callback installed")
  else .ok { s with receiving := true }

def stop (s : Socket) : Socket := { s with receiving := false }

def exit (s : Socket) : Socket := { s.stop with id := none }

/-- The datagrams that a frame becomes, or why it becomes none. -/
def packets (host : Host) (s : Socket) (dest : PortId) (bytes : List UInt8) :
    Except BusError (List Packet) :=
  match s.id with
  | none => .error .notRunning
  | some id =>
    if sizeLimit < bytes.length then
      .error (.invalidArgument
        ("frame of " ++ Numeral.decimal bytes.length ++ " bytes exceeds datagram limit"))
    else
      let packet (p : Peer) : Packet := ⟨s.address, p.address, bytes⟩
      if dest.isBroadcast then
        .ok (((s.peers.filter fun p => p.id != id).filter fun p =>
          (host.leaves s.address p.address).isOk).map packet)
      else
        match s.peers.find? fun p => p.id == dest with
        | none => .error (.unreachable dest)
        | some p =>
          match host.leaves s.address p.address with
          | .ok () => .ok [packet p]
          | .error e => .error (.io e)

/-- A datagram comes in; one for another address does not. -/
def arrive (s : Socket) (p : Packet) : Socket :=
  if p.dest = s.address then { s with inbox := s.inbox ++ [p.bytes] } else s

/-- The receiver takes a datagram. An empty one is passed over. -/
def take? (s : Socket) : Option (List UInt8 × Socket) :=
  if s.receiving then
    match s.inbox with
    | [] => none
    | bytes :: rest => some (bytes, { s with inbox := rest })
  else none

/-- Takes datagrams until there is none, passing over empty ones. -/
def drain (s : Socket) : List (List UInt8) × Socket :=
  if s.receiving then (s.inbox.filter fun bytes => !bytes.isEmpty, { s with inbox := [] })
  else ([], s)

end Socket

end FrameBus.Datagram
