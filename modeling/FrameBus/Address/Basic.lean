/-!
# Socket addresses

An address of the network and a port number there. An address of version 6 has eight groups of 16
bits and a scope, which is 0 where none is meant.
-/

namespace FrameBus

structure Ipv4 where
  a : UInt8
  b : UInt8
  c : UInt8
  d : UInt8
deriving DecidableEq, Repr, Inhabited

structure Ipv6 where
  groups : List UInt16
  length_groups : groups.length = 8
deriving DecidableEq, Repr

inductive SocketAddress where
  | v4 (ip : Ipv4) (port : UInt16)
  | v6 (ip : Ipv6) (scope : UInt32) (port : UInt16)
deriving DecidableEq, Repr

namespace Ipv4

def octets (ip : Ipv4) : List UInt8 := [ip.a, ip.b, ip.c, ip.d]

/-- The two groups that the address takes in an address of version 6. -/
def toGroups (ip : Ipv4) : List UInt16 :=
  [UInt16.ofNat (ip.a.toNat * 256 + ip.b.toNat), UInt16.ofNat (ip.c.toNat * 256 + ip.d.toNat)]

def ofGroups (high low : UInt16) : Ipv4 :=
  ⟨UInt8.ofNat (high.toNat / 256), UInt8.ofNat (high.toNat % 256),
    UInt8.ofNat (low.toNat / 256), UInt8.ofNat (low.toNat % 256)⟩

end Ipv4

namespace Ipv6

/-- The address of version 4 that the address stands for, if it does. -/
def mapped? (ip : Ipv6) : Option Ipv4 :=
  match ip.groups with
  | [0, 0, 0, 0, 0, 0xFFFF, high, low] => some (.ofGroups high low)
  | _ => none

end Ipv6

namespace SocketAddress

def port : SocketAddress → UInt16
  | .v4 _ port => port
  | .v6 _ _ port => port

instance : Inhabited SocketAddress := ⟨.v4 ⟨0, 0, 0, 0⟩ 0⟩

end SocketAddress

end FrameBus
