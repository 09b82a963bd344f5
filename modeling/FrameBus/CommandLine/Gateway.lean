import FrameBus.CommandLine.Basic
import FrameBus.Config.Toml

/-!
# The command line of the gateway daemon

The daemon takes its configuration from a file or from its arguments. Its commands write an example
file and judge a file.
-/

namespace FrameBus.CommandLine.Gateway

inductive Command where
  | genConfig (path : String)
  | validate (path : String)
deriving DecidableEq, Repr

structure Options where
  config : Option String
  id : Option PortId
  bind : SocketAddress
  peers : List String
  queue : QueueKind
  queueCapacity : Option Nat
  priority : Nat
  statsInterval : Option Nat
  logLevel : Option String
  command : Option Command

/-! ## Values -/

def readId (s : String) : Except PortId.ReadError PortId := PortId.read s.toList

def readAddress (s : String) : Except String SocketAddress :=
  match SocketAddress.read? s.toList with
  | some a => .ok a
  | none => .error SocketAddress.readFailure

def readWord (s : String) : Except NumeralError Nat := Numeral.read 10 0xFFFFFFFFFFFFFFFF s.toList

/-- A number of 8 bits is read as a signed one first. -/
def readByte (s : String) : Except NumeralError Nat := do
  let n ← Numeral.readSigned 10 0x7FFFFFFFFFFFFFFF s.toList
  if n < 0 then .error .tooSmall else if 255 < n then .error .tooLarge else return n.toNat

/-! ## The program -/

def program : Program where
  parameters :=
    [help, version,
      { long := "config", short := some 'c', judge := path },
      { long := "id", judge := readable readId },
      { long := "bind", judge := readable readAddress },
      { long := "peer", short := some 'p', action := .append },
      { long := "queue", judge := readable QueueKind.read },
      { long := "queue-capacity", judge := readable readWord },
      { long := "priority", judge := readable readByte },
      { long := "stats-interval", judge := readable readWord },
      { long := "log-level" }]
  commands :=
    [{ name := "gen-config"
       parameters := [help, { long := "output", short := some 'o', judge := path }] },
      { name := "validate"
        parameters := [help, { long := "config", short := some 'c', judge := path }]
        required := ["config"] }]
  conflicts :=
    ["id", "bind", "peer", "queue", "queue-capacity", "priority"].map fun name => (name, "config")

/-- The first value of a parameter as something that its judge has read. -/
def value? {ε α : Type} (g : Given) (name : String) (read : String → Except ε α) : Option α :=
  (g.values name).head?.bind fun v => (read v).toOption

def ofInvocation (i : Invocation) : Options where
  config := (i.root.values "config").head?
  id := value? i.root "id" readId
  bind := (value? i.root "bind" readAddress).getD (.v4 ⟨0, 0, 0, 0⟩ 7600)
  peers := i.root.values "peer"
  queue := (value? i.root "queue" QueueKind.read).getD .double
  queueCapacity := value? i.root "queue-capacity" readWord
  priority := (value? i.root "priority" readByte).getD 80
  statsInterval := value? i.root "stats-interval" readWord
  logLevel := (i.root.values "log-level").head?
  command := i.command.map fun (name, g) =>
    if name = "validate" then .validate ((g.values "config").headD "")
    else .genConfig ((g.values "output").headD "gateway.toml")

def parse (args : List String) : Except Failure Options :=
  (CommandLine.parse program args).map ofInvocation

/-! ## The configuration -/

/-- The valid configuration that the options ask for; `readFile` reads a file. -/
def Options.toConfig (o : Options) (readFile : String → Except IoError String) :
    Except Config.Failure Config :=
  match o.config with
  | some path => Config.ofFile readFile path
  | none =>
    match o.id with
    | none => .error (.invalid .missingId)
    | some id =>
      match o.peers.mapM Peer.read with
      | .error e => .error (.invalid (.peerEntry e))
      | .ok peers =>
        let c : Config :=
          { gateway := { id, priority := o.priority }
            queue := { kind := o.queue, capacity := o.queueCapacity }
            udp := { bind := o.bind, peers } }
        match c.validate with
        | .error flaw => .error (.invalid flaw)
        | .ok () => .ok c

/-- A configuration with the settings that the options give beside it. -/
def Options.override (o : Options) (c : Config) : Config :=
  { c with gateway :=
    { c.gateway with
      logLevel := o.logLevel.getD c.gateway.logLevel
      statsIntervalSecs := o.statsInterval.getD c.gateway.statsIntervalSecs } }

end FrameBus.CommandLine.Gateway
