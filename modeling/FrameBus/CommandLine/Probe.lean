import FrameBus.CommandLine.Gateway
import FrameBus.Probe.Payload

/-!
# The command line of the probe

The probe's own parameters can stand before or behind the name of its mode. A value behind it
counts, or else one before it, or else the default.
-/

namespace FrameBus.CommandLine.Probe

open CommandLine.Gateway (readId readAddress readWord value?)
open FrameBus.Probe (readEventId)

inductive Mode where
  | listen (events : List UInt32) (count : Nat)
  | send (dest : PortId) (event : UInt32) (payload : String) (count intervalMs : Nat)
  | broadcast (event : UInt32) (payload : String)
  | ping (dest : PortId) (size count warmup intervalUs : Nat)
  | pong
deriving DecidableEq, Repr

structure Options where
  id : PortId
  gateway : Option PortId
  bind : SocketAddress
  peers : List String
  quiet : Bool
  mode : Mode

/-! ## The program -/

/-- The parameters that every mode has too. -/
def shared : List Parameter :=
  [{ long := "id", judge := readable readId },
    { long := "gateway", judge := readable readId },
    { long := "bind", judge := readable readAddress },
    { long := "peer", short := some 'p', action := .append },
    { long := "quiet", short := some 'q', action := .flag }]

def dest : Parameter := { long := "to", short := some 't', judge := readable readId }

def event : Parameter := { long := "event", short := some 'e', judge := readable readEventId }

def word (name : String) (letter : Option Char) : Parameter :=
  { long := name, short := letter, judge := readable readWord }

def program : Program where
  parameters := [help, version] ++ shared
  needsCommand := true
  commands :=
    [{ name := "listen", required := ["event"]
       parameters :=
        help :: { event with action := .append } :: word "count" (some 'n') :: shared },
      { name := "send", required := ["to", "event"]
        parameters := [help, dest, event, { long := "payload" }, word "count" (some 'n'),
          word "interval-ms" none] ++ shared },
      { name := "broadcast", required := ["event"]
        parameters := [help, event, { long := "payload" }] ++ shared },
      { name := "ping", required := ["to"]
        parameters := [help, dest, word "size" (some 's'), word "count" (some 'n'),
          word "warmup" (some 'w'), word "interval" (some 'i')] ++ shared },
      { name := "pong", parameters := help :: shared }]

def toMode (name : String) (g : Given) : Mode :=
  let number (name : String) (default : Nat) := (value? g name readWord).getD default
  let dest := (value? g "to" readId).getD .unknown
  let events := (g.values "event").filterMap fun v => (readEventId v).toOption
  let event := events.headD 0
  let payload := (g.values "payload").headD ""
  match name with
  | "listen" => .listen events (number "count" 0)
  | "send" => .send dest event payload (number "count" 1) (number "interval-ms" 100)
  | "broadcast" => .broadcast event payload
  | "ping" =>
    .ping dest (number "size" 64) (number "count" 1000) (number "warmup" 10)
      (number "interval" 1000)
  | _ => .pong

def ofInvocation (i : Invocation) : Options :=
  let (name, g) := i.command.getD ("", [])
  let given (name : String) : Given := if g.has name then g else i.root
  { id := (value? (given "id") "id" readId).getD (.ofParts 1 2 5)
    gateway := value? (given "gateway") "gateway" readId
    bind := (value? (given "bind") "bind" readAddress).getD (.v4 ⟨0, 0, 0, 0⟩ 7600)
    peers := (given "peer").values "peer"
    quiet := (given "quiet").has "quiet"
    mode := toMode name g }

def parse (args : List String) : Except Failure Options :=
  (CommandLine.parse program args).map ofInvocation

/-! ## Options as texts -/

/-- The options as `key=value`, ids in their parts. -/
def Options.describe (o : Options) : List String :=
  let row (key value : String) := key ++ "=" ++ value
  let number (key : String) (n : Nat) := row key (Numeral.decimal n)
  let events (es : List UInt32) := String.intercalate "," (es.map fun e => Numeral.decimal e.toNat)
  [row "id" o.id.render, row "gateway" ((o.gateway.map PortId.render).getD "none"),
    row "bind" o.bind.render, row "peer" (String.intercalate "," o.peers),
    row "quiet" (if o.quiet then "true" else "false")] ++
    match o.mode with
    | .listen es count => ["mode=listen", row "event" (events es), number "count" count]
    | .send dest event payload count intervalMs =>
      ["mode=send", row "to" dest.render, row "event" (events [event]), row "payload" payload,
        number "count" count, number "interval_ms" intervalMs]
    | .broadcast event payload =>
      ["mode=broadcast", row "event" (events [event]), row "payload" payload]
    | .ping dest size count warmup intervalUs =>
      ["mode=ping", row "to" dest.render, number "size" size, number "count" count,
        number "warmup" warmup, number "interval" intervalUs]
    | .pong => ["mode=pong"]

end FrameBus.CommandLine.Probe
