import FrameBus.Config.Toml

/-!
# What the daemon's program says of configurations

The report on a valid configuration, the banner of a daemon that starts, and an example file.
-/

namespace FrameBus.Config

def row (label value : String) : String := label ++ value ++ "\n"

/-- The report on a valid configuration. -/
def validReport (c : Config) : String :=
  "Configuration valid!\n\n" ++ row "Gateway: " c.gateway.id.render ++
    row "Bind:    " c.udp.bind.render ++ row "Peers:   " (Numeral.decimal c.udp.peers.length) ++
    String.join (c.udp.peers.mapIdx fun i p =>
      "  [" ++ Numeral.decimal i ++ "] " ++ p.id.render ++ " at " ++ p.address.render ++ "\n")

def capacityText : Option Nat → String
  | none => "unbounded"
  | some n => "capacity " ++ Numeral.decimal n

/-- The banner of a daemon bound to an address. -/
def banner (c : Config) (version : String) (address : SocketAddress) : String :=
  row "portbus gateway v" version ++ "=====================================\n\n" ++
    row "Gateway: " (c.gateway.id.render ++ " on " ++ address.render) ++
    String.join (c.udp.peers.map fun p =>
      row "Peer:    " (p.id.render ++ " at " ++ p.address.render)) ++
    row "Queue:   " (c.queue.kind.name ++ " (" ++ capacityText c.queue.capacity ++ ")") ++
    "\nPress Ctrl+C to stop...\n\n"

/-! ## The example -/

def exampleConfig : Config :=
  let peer (id : PortId) (last : UInt8) (port : UInt16) : Peer := ⟨id, .v4 ⟨10, 0, 0, last⟩ port⟩
  { gateway := { id := .ofParts 1 0 1 }
    udp :=
      { bind := .v4 ⟨0, 0, 0, 0⟩ 7601
        peers := [peer (.ofParts 1 0 2) 1 7600, peer (.ofParts 1 2 1) 2 7602,
          peer (.ofParts 1 3 1) 3 7603] } }

/-- The example as a file with a comment before it. -/
def exampleFile : Except Failure String :=
  exampleConfig.toToml.map fun toml =>
    "# portbus gateway configuration\n# Generated by portbus-gateway gen-config\n#\n" ++
      "# [queue] capacity = <n> bounds every port queue and the ingress queue.\n\n" ++ toml ++ "\n"

end FrameBus.Config
