import FrameBus.Config.Basic
import FrameBus.Toml.Reader
import FrameBus.Toml.Writer
import FrameBus.Value.Decode

/-!
# Configurations as TOML

A configuration is read from a document and validated, and written so that reading gives it back.
-/

namespace FrameBus.Config

open Value

/-! ## Reading -/

def toAddress : Value → Except DecodeError SocketAddress
  | .text s =>
    match SocketAddress.read? s.toList with
    | some a => .ok a
    | none => .error .mismatch
  | _ => .error .mismatch

def toSettings (v : Value) : Except DecodeError GatewaySettings :=
  v.toRecord .toml ["id", "priority", "poll_interval_ms", "stats_interval_secs", "log_level"]
    (fun name w =>
      match name with
      | "id" => w.toPortId.map fun _ => ()
      | "priority" => (w.toNat 255).map fun _ => ()
      | "log_level" => w.toText.map fun _ => ()
      | _ => (w.toNat sizeLimit).map fun _ => ())
    (fun es => do
      let id ← required es "id" toPortId
      let base : GatewaySettings := { id }
      let priority ← fieldOr es "priority" base.priority (Value.toNat 255)
      let pollIntervalMs ← fieldOr es "poll_interval_ms" base.pollIntervalMs (Value.toNat sizeLimit)
      let statsIntervalSecs ←
        fieldOr es "stats_interval_secs" base.statsIntervalSecs (Value.toNat sizeLimit)
      let logLevel ← fieldOr es "log_level" base.logLevel toText
      return { id, priority, pollIntervalMs, statsIntervalSecs, logLevel })

def toPeer (v : Value) : Except DecodeError Peer :=
  v.toRecord .toml ["id", "addr"]
    (fun name w =>
      match name with
      | "id" => w.toPortId.map fun _ => ()
      | _ => (toAddress w).map fun _ => ())
    (fun es => do
      let id ← required es "id" toPortId
      let address ← required es "addr" toAddress
      return { id, address })

def toPeers : Value → Except DecodeError (List Peer)
  | .list items => items.mapM toPeer
  | _ => .error .mismatch

def toDatagram (v : Value) : Except DecodeError Datagram.Config :=
  v.toRecord .toml ["bind", "peers", "read_timeout_ms"]
    (fun name w =>
      match name with
      | "bind" => (toAddress w).map fun _ => ()
      | "peers" => (toPeers w).map fun _ => ()
      | _ => (w.toNat sizeLimit).map fun _ => ())
    (fun es => do
      let base : Datagram.Config := {}
      let bind ← fieldOr es "bind" base.bind toAddress
      let peers ← fieldOr es "peers" base.peers toPeers
      let readTimeoutMs ← fieldOr es "read_timeout_ms" base.readTimeoutMs (Value.toNat sizeLimit)
      return { bind, peers, readTimeoutMs })

def ofValue (v : Value) : Except DecodeError Config :=
  v.toRecord .toml ["gateway", "queue", "udp"]
    (fun name w =>
      match name with
      | "gateway" => (toSettings w).map fun _ => ()
      | "queue" => (w.toQueueConfig .toml).map fun _ => ()
      | _ => (toDatagram w).map fun _ => ())
    (fun es => do
      let gateway ← required es "gateway" toSettings
      let queue ← fieldOr es "queue" {} (toQueueConfig .toml)
      let udp ← fieldOr es "udp" {} toDatagram
      return { gateway, queue, udp })

/-- The valid configuration that a document says. -/
def ofToml (text : String) : Except Failure Config :=
  match Toml.Reader.read? text with
  | none => .error (.toml none)
  | some v =>
    match ofValue v with
    | .error e => .error (.toml e.message?)
    | .ok c =>
      match c.validate with
      | .error flaw => .error (.invalid flaw)
      | .ok () => .ok c

/-- The valid configuration that a file holds; `readFile` reads a file. -/
def ofFile (readFile : String → Except IoError String) (path : String) : Except Failure Config :=
  match readFile path with
  | .error e => .error (.io e)
  | .ok content => ofToml content

/-! ## Writing -/

open Toml.Writer

def Peer.lines (p : Peer) : List String :=
  ["", "[[udp.peers]]", entry "id" (text p.id.render), entry "addr" (text p.address.render)]

/-- The lines of a configuration, if TOML has forms for its numbers. -/
def toLines (c : Config) : Option (List String) := do
  let poll ← number? c.gateway.pollIntervalMs
  let stats ← number? c.gateway.statsIntervalSecs
  let capacity ← match c.queue.capacity with
    | none => some []
    | some n => (number? n).map fun t => [entry "capacity" t]
  let timeout ← number? c.udp.readTimeoutMs
  return ["[gateway]", entry "id" (text c.gateway.id.render),
      entry "priority" (Numeral.decimal c.gateway.priority), entry "poll_interval_ms" poll,
      entry "stats_interval_secs" stats, entry "log_level" (text c.gateway.logLevel),
      "", "[queue]", entry "kind" (text c.queue.kind.name)] ++ capacity ++
    ["", "[udp]", entry "bind" (text c.udp.bind.render)] ++
    (if c.udp.peers.isEmpty then [entry "peers" "[]"] else []) ++
    [entry "read_timeout_ms" timeout] ++ c.udp.peers.flatMap Peer.lines

def toToml (c : Config) : Except Failure String :=
  match c.toLines with
  | none => .error .tomlNumber
  | some lines => .ok (String.join (lines.map fun l => l ++ "\n"))

end FrameBus.Config
