import FrameBus.Error.Io
import FrameBus.Peer

/-!
# Hosts

What the host under a program decides: which addresses a datagram socket can be bound to, which
datagrams leave, and which threads come to run. `isolated` is a host for a user without privileges
whose network has no interface: every address of version 4 can be bound, no datagram leaves, and
every thread runs.
-/

namespace FrameBus

/-- Why a thread that was asked for does not do its work. -/
inductive ThreadFault where
  /-- there is no such thread, for the reason that the host gives -/
  | refused (reason : String)
  /-- the thread ends before it has said that it is ready -/
  | lost
deriving DecidableEq, Repr

/-- What keeps the threads of a start from running: a session's worker, the two workers of a
gateway, and the receiver of a gateway's socket, for which nobody waits. -/
structure Threads where
  worker : Option ThreadFault := none
  uplink : Option ThreadFault := none
  downlink : Option ThreadFault := none
  receiver : Option String := none
deriving DecidableEq, Repr

structure Host where
  /-- the address that a socket gets for one that it asks for -/
  bind : SocketAddress → Except IoError SocketAddress
  /-- whether a datagram from one address to another leaves -/
  leaves : SocketAddress → SocketAddress → Except IoError Unit
  /-- what becomes of the threads of a program's starts -/
  threads : Threads := {}

namespace Host

def permissionDenied : IoError := .os 13

def invalidArgument : IoError := .os 22

def addressNotAvailable : IoError := .os 99

def networkUnreachable : IoError := .os 101

/-- Ports that only a privileged user can bind. -/
def privileged (port : UInt16) : Bool := decide (0 < port.toNat) && decide (port.toNat < 1024)

/-- A port of the host's choice where the address names none. -/
def chosenPort : UInt16 := 40000

def withPort : SocketAddress → SocketAddress
  | .v4 ip port => .v4 ip (if port = 0 then chosenPort else port)
  | .v6 ip scope port => .v6 ip scope (if port = 0 then chosenPort else port)

/-- The first group of an address that is meant for one link only. -/
def isLinkLocal (ip : Ipv6) : Bool :=
  match ip.groups with
  | g :: _ => g.toNat / 64 == 0xFE80 / 64
  | [] => false

def isUnspecified (ip : Ipv6) : Bool := ip.groups.all (· == 0)

def isolated : Host where
  bind := fun address =>
    if privileged address.port then .error permissionDenied
    else
      match address with
      | .v4 _ _ => .ok (withPort address)
      | .v6 ip scope _ =>
        if isUnspecified ip || ip.mapped?.isSome then .ok (withPort address)
        else if isLinkLocal ip && scope == 0 then .error invalidArgument
        else .error addressNotAvailable
  leaves := fun _ _ => .error networkUnreachable

end Host

end FrameBus
