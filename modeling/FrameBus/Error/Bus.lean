import FrameBus.Error.Io
import FrameBus.PortId.Notation

/-!
# Failures of the bus

Every failure is local to one call or one frame. `message` is the text for people, `inspect` the
text with the parts named.
-/

namespace FrameBus

inductive BusError where
  /-- a reserved id where a single port is needed -/
  | invalidPortId (id : PortId)
  /-- an argument refused before anything happened -/
  | invalidArgument (text : String)
  /-- a frame too small for what was asked of it -/
  | noSpace (needed available : Nat)
  | portExists (id : PortId)
  | portNotFound (id : PortId)
  | sessionExists (id : PortId)
  /-- sender or target is not in the connected state -/
  | notConnected (id : PortId)
  /-- no way toward the destination -/
  | unreachable (id : PortId)
  /-- no handler for the event -/
  | eventNotFound (event : UInt32)
  | queueClosed
  /-- a header that cannot be read -/
  | malformed (reason : String)
  /-- a header's hash against the hash of what it covers -/
  | integrity (expected actual : UInt32)
  | alreadyRunning
  | notRunning
  /-- a link that cannot be used -/
  | transport (text : String)
  /-- a worker that cannot be started -/
  | spawn (text : String)
  | io (error : IoError)
deriving DecidableEq, Repr

namespace BusError

def name : BusError → String
  | .invalidPortId _ => "InvalidPortId"
  | .invalidArgument _ => "InvalidArgument"
  | .noSpace _ _ => "NoSpace"
  | .portExists _ => "PortExists"
  | .portNotFound _ => "PortNotFound"
  | .sessionExists _ => "SessionExists"
  | .notConnected _ => "NotConnected"
  | .unreachable _ => "Unreachable"
  | .eventNotFound _ => "EventNotFound"
  | .queueClosed => "QueueClosed"
  | .malformed _ => "Malformed"
  | .integrity _ _ => "Integrity"
  | .alreadyRunning => "AlreadyRunning"
  | .notRunning => "NotRunning"
  | .transport _ => "Transport"
  | .spawn _ => "Spawn"
  | .io _ => "Io"

def message : BusError → String
  | .invalidPortId id => "invalid port id " ++ id.render
  | .invalidArgument text => "invalid argument: " ++ text
  | .noSpace needed available =>
    "frame has no space: needed " ++ Numeral.decimal needed ++ " bytes, " ++
      Numeral.decimal available ++ " available"
  | .portExists id => "port " ++ id.render ++ " already exists"
  | .portNotFound id => "port " ++ id.render ++ " not found"
  | .sessionExists id => "event session " ++ id.render ++ " already exists"
  | .notConnected id => "port " ++ id.render ++ " is not connected"
  | .unreachable id => "destination " ++ id.render ++ " is unreachable"
  | .eventNotFound event => "event 0x" ++ Numeral.hex 1 event.toNat ++ " not attached"
  | .queueClosed => "queue closed"
  | .malformed reason => "malformed frame: " ++ reason
  | .integrity expected actual =>
    "integrity check failed: header 0x" ++ Numeral.hex 8 expected.toNat ++ ", computed 0x" ++
      Numeral.hex 8 actual.toNat
  | .alreadyRunning => "already running"
  | .notRunning => "not running"
  | .transport text => "transport error: " ++ text
  | .spawn text => "thread error: " ++ text
  | .io error => "I/O error: " ++ error.message

/-- The parts that `inspect` puts behind the name. -/
def parts : BusError → String
  | .invalidPortId id | .portExists id | .portNotFound id | .sessionExists id | .notConnected id
  | .unreachable id => "(" ++ id.inspect ++ ")"
  | .invalidArgument text | .malformed text | .transport text | .spawn text =>
    "(" ++ Text.quoted text ++ ")"
  | .noSpace needed available =>
    " \x7b needed: " ++ Numeral.decimal needed ++ ", available: " ++ Numeral.decimal available ++
      " \x7d"
  | .eventNotFound event => "(" ++ Numeral.decimal event.toNat ++ ")"
  | .integrity expected actual =>
    " \x7b expected: " ++ Numeral.decimal expected.toNat ++ ", actual: " ++
      Numeral.decimal actual.toNat ++ " \x7d"
  | .io error => "(" ++ error.inspect ++ ")"
  | .queueClosed | .alreadyRunning | .notRunning => ""

/-- The error with its parts named, for diagnostic texts. -/
def inspect (e : BusError) : String := e.name ++ e.parts

end BusError

end FrameBus
