import Mathlib.Algebra.Ring.Nat

/-! Addresses and endpoints, in the two forms the core converts between: those
of the user-mode stack and the socket addresses of the standard library. -/
namespace StunnelIos

abbrev Bytes := List UInt8

/-- Four octets, most significant first. -/
structure Ipv4Address where
  a : UInt8
  b : UInt8
  c : UInt8
  d : UInt8
deriving DecidableEq, Repr

structure Ipv6Address where
  bits : BitVec 128
deriving DecidableEq, Repr

inductive IpAddress where
  | v4 (addr : Ipv4Address)
  | v6 (addr : Ipv6Address)
deriving DecidableEq, Repr

structure IpEndpoint where
  addr : IpAddress
  port : UInt16
deriving DecidableEq, Repr

/-- What a socket is bound to; `none` stands for every local address. -/
structure IpListenEndpoint where
  addr : Option IpAddress
  port : UInt16
deriving DecidableEq, Repr

/-- An address of the interface with the length of its network prefix. -/
structure Ipv4Cidr where
  address : Ipv4Address
  prefixLen : Nat
deriving DecidableEq, Repr

inductive SocketAddr where
  | v4 (ip : Ipv4Address) (port : UInt16)
  | v6 (ip : Ipv6Address) (port : UInt16)
deriving DecidableEq, Repr

def endpointToSocketAddr (endpoint : IpEndpoint) : SocketAddr :=
  match endpoint.addr with
  | .v4 v4 => .v4 v4 endpoint.port
  | .v6 v6 => .v6 v6 endpoint.port

def socketAddrToEndpoint (target : SocketAddr) : IpEndpoint :=
  match target with
  | .v4 ip port => ⟨.v4 ip, port⟩
  | .v6 ip port => ⟨.v6 ip, port⟩

@[simp] theorem endpointToSocketAddr_toEndpoint (target : SocketAddr) :
    endpointToSocketAddr (socketAddrToEndpoint target) = target := by
  cases target <;> rfl

@[simp] theorem socketAddrToEndpoint_toSocketAddr (endpoint : IpEndpoint) :
    socketAddrToEndpoint (endpointToSocketAddr endpoint) = endpoint := by
  obtain ⟨addr, port⟩ := endpoint
  cases addr <;> rfl

namespace Ipv4Address

def toNat (addr : Ipv4Address) : Nat :=
  ((addr.a.toNat * 256 + addr.b.toNat) * 256 + addr.c.toNat) * 256 + addr.d.toNat

def unspecified : Ipv4Address := ⟨0, 0, 0, 0⟩

def limitedBroadcast : Ipv4Address := ⟨255, 255, 255, 255⟩

/-- 224.0.0.0/4 -/
def isMulticast (addr : Ipv4Address) : Bool := decide (224 ≤ addr.a ∧ addr.a ≤ 239)

end Ipv4Address

/-- ff00::/8 in the second case. -/
def IpAddress.isIpv4 : IpAddress → Bool
  | .v4 _ => true
  | .v6 _ => false

def IpAddress.isMulticast : IpAddress → Bool
  | .v4 addr => addr.isMulticast
  | .v6 addr => addr.bits.toNat / 2 ^ 120 == 255

/-- The host bits of the network are all ones. Prefixes of 31 and 32 bits have
no broadcast address. -/
def Ipv4Cidr.isBroadcast (cidr : Ipv4Cidr) (addr : Ipv4Address) : Bool :=
  let hosts := 2 ^ (32 - cidr.prefixLen)
  decide (cidr.prefixLen < 31 ∧ addr.toNat / hosts = cidr.address.toNat / hosts ∧
    addr.toNat % hosts = hosts - 1)

def isPrivateV4 (addr : Ipv4Address) : Bool :=
  -- 10.0.0.0/8
  if addr.a == 10 then true
  -- 172.16.0.0/12
  else if addr.a == 172 && addr.b ≥ 16 && addr.b ≤ 31 then true
  -- 192.168.0.0/16
  else if addr.a == 192 && addr.b == 168 then true
  -- 127.0.0.0/8
  else if addr.a == 127 then true
  -- 169.254.0.0/16
  else if addr.a == 169 && addr.b == 254 then true
  else false

end StunnelIos
