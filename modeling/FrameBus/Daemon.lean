import FrameBus.Config.Basic
import FrameBus.Network.Station

/-!
# The gateway daemon

A daemon is a station as a valid configuration describes it. A configuration with a flaw is refused
before a socket is bound.
-/

namespace FrameBus

structure Daemon where
  config : Config
  station : Network.Station
deriving Repr

namespace Daemon

inductive Failure where
  | config (failure : Config.Failure)
  | bus (error : BusError)
deriving DecidableEq, Repr

namespace Failure

def message : Failure → String
  | .config failure => "Configuration error: " ++ failure.message
  | .bus error => "Gateway error: " ++ error.message

/-- The failure with its parts named, for diagnostic texts. -/
def inspect : Failure → String
  | .config failure => "Config(" ++ failure.inspect ++ ")"
  | .bus error => "Bus(" ++ error.inspect ++ ")"

end Failure

/-- Binds the socket and registers the gateway; it is not started. -/
def create (n : Network) (c : Config) : Except Failure Daemon × Network :=
  match c.validate with
  | .error flaw => (.error (.config (.invalid flaw)), n)
  | .ok () =>
    match n.createStation c.gateway.id c.queue c.queue c.udp with
    | (.error e, n) => (.error (.bus e), n)
    | (.ok station, n) => (.ok ⟨c, station⟩, n)

def start (n : Network) (d : Daemon) : Except Failure Unit × Network :=
  let (r, n) := n.startGateway d.station.gateway n.host.threads
  (r.mapError .bus, n)

/-- How long a thread of the daemon can wait before it looks at its flag again, in microseconds. A
stop waits for all of them. -/
def patience (d : Daemon) : Nat :=
  1000 * max (max 1 d.config.udp.readTimeoutMs) d.config.gateway.pollIntervalMs

def stop (n : Network) (d : Daemon) : Except Failure Unit × Network :=
  let (r, n) := n.stopGateway d.station.gateway
  (r.mapError .bus, n)

end Daemon

end FrameBus
