import FrameBus.Error.Bus
import FrameBus.Link.Datagram
import FrameBus.Pace
import FrameBus.Queue.Config

/-!
# Configuration of the gateway daemon

The gateway's own settings, the queues, and the datagram link with its peers. `validate` names the
first thing that is wrong, and of the peers the first that is reserved, the gateway's own, or named
before.
-/

namespace FrameBus

structure GatewaySettings where
  id : PortId
  priority : Nat := Pace.gateway.priority
  pollIntervalMs : Nat := Pace.gateway.pollIntervalMs
  /-- 0 for no reports -/
  statsIntervalSecs : Nat := 10
  logLevel : String := "info"
deriving DecidableEq, Repr

structure Config where
  gateway : GatewaySettings
  queue : QueueConfig := {}
  udp : Datagram.Config := {}
deriving DecidableEq, Repr

namespace Config

/-- How the gateway's workers run. -/
def pace (c : Config) : Pace := ⟨c.gateway.priority, c.gateway.pollIntervalMs⟩

/-- What can be wrong with a configuration. -/
inductive Flaw where
  | missingId
  | peerEntry (error : Peer.ReadError)
  | reservedId (id : PortId)
  | notARoute (id : PortId)
  | pollInterval
  | capacity
  | noPeers
  | peerReserved (index : Nat) (id : PortId)
  | peerIsGateway (index : Nat) (id : PortId)
  | peerTwice (index : Nat) (id : PortId)
deriving DecidableEq, Repr

def Flaw.message : Flaw → String
  | .missingId => "Missing --id (or use --config)"
  | .peerEntry error => error.message
  | .reservedId id => "Gateway id " ++ id.render ++ " is reserved"
  | .notARoute id =>
    "Gateway id " ++ id.render ++ " is not a route endpoint (expected x.y.1 or a backbone route)"
  | .pollInterval => "poll_interval_ms must be greater than 0"
  | .capacity => "Queue capacity must be greater than 0 (omit it for unbounded)"
  | .noPeers => "No UDP peers configured"
  | .peerReserved index id => "Peer " ++ Numeral.decimal index ++ " has reserved id " ++ id.render
  | .peerIsGateway index id =>
    "Peer " ++ Numeral.decimal index ++ " has the gateway's own id " ++ id.render
  | .peerTwice index id => "Peer " ++ Numeral.decimal index ++ " duplicates id " ++ id.render

/-- The first flaw of the peers from an index on; `seen` are the ids before. -/
def checkPeers (gateway : PortId) :
    (index : Nat) → (seen : List PortId) → List Peer → Except Flaw Unit
  | _, _, [] => .ok ()
  | index, seen, p :: rest =>
    if p.id.isReserved then .error (.peerReserved index p.id)
    else if p.id = gateway then .error (.peerIsGateway index p.id)
    else if seen.contains p.id then .error (.peerTwice index p.id)
    else checkPeers gateway (index + 1) (p.id :: seen) rest

def validate (c : Config) : Except Flaw Unit :=
  let id := c.gateway.id
  if id.isReserved then .error (.reservedId id)
  else if !id.isRoute && !id.isBackbone then .error (.notARoute id)
  else if c.gateway.pollIntervalMs = 0 then .error .pollInterval
  else if c.queue.capacity = some 0 then .error .capacity
  else if c.udp.peers.isEmpty then .error .noPeers
  else checkPeers id 0 [] c.udp.peers

/-- Why a configuration cannot be had or written. -/
inductive Failure where
  | io (error : IoError)
  /-- no TOML, or not the values that are expected; with the text where it is a fixed one -/
  | toml (message : Option String)
  /-- a number that TOML has no form for -/
  | tomlNumber
  | invalid (flaw : Flaw)
deriving DecidableEq, Repr

namespace Failure

def message : Failure → String
  | .io error => "I/O error: " ++ error.message
  | .toml message => "TOML parse error: " ++ message.getD ""
  | .tomlNumber => "TOML serialize error: out-of-range value for u64 type"
  | .invalid flaw => "Invalid configuration: " ++ flaw.message

/-- The failure with its parts named, for diagnostic texts. -/
def inspect : Failure → String
  | .io error => "Io(" ++ error.inspect ++ ")"
  | .toml message => "Toml(" ++ message.getD "" ++ ")"
  | .tomlNumber => "TomlSer(OutOfRange(Some(\"u64\")))"
  | .invalid flaw => "Invalid(" ++ Text.quoted flaw.message ++ ")"

end Failure

end Config

end FrameBus
