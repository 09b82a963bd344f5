import FrameBus.Address.Notation
import FrameBus.PortId.Notation

/-!
# Peers

A peer is a gateway that datagrams reach: its id and its socket address, written `id=address`.
-/

namespace FrameBus

structure Peer where
  id : PortId
  address : SocketAddress
deriving DecidableEq, Repr

namespace Peer

inductive ReadError where
  /-- no `=` in the entry -/
  | shape (entry : String)
  | id (error : PortId.ReadError)
  /-- the text behind the `=`, as it stands -/
  | address (text : String)
deriving DecidableEq, Repr

def ReadError.message : ReadError → String
  | .shape entry => "Invalid peer format: " ++ entry ++ " (expected id=addr)"
  | .id error => error.message
  | .address text => "Invalid peer address '" ++ text ++ "': " ++ SocketAddress.readFailure

/-- An entry is cut at its first `=`; blanks around both parts are skipped. -/
def read (entry : String) : Except ReadError Peer :=
  match Text.cut? '=' entry.toList with
  | none => .error (.shape entry)
  | some (id, address) =>
    match PortId.read id with
    | .error e => .error (.id e)
    | .ok id =>
      match SocketAddress.read? (Text.trim address) with
      | none => .error (.address (String.ofList address))
      | some address => .ok ⟨id, address⟩

end Peer

end FrameBus
