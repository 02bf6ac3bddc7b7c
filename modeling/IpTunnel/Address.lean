import IpTunnel.Bytes

namespace IpTunnel

inductive Family where
  | v4
  | v6
deriving DecidableEq

def Family.text : Family → String
  | .v4 => "IPv4"
  | .v6 => "IPv6"

instance : ToString Family := ⟨Family.text⟩

structure Ipv4 where
  octets : Bytes
  size : octets.length = 4
deriving DecidableEq

structure Ipv6 where
  octets : Bytes
  size : octets.length = 16
deriving DecidableEq

theorem Ipv4.length_octets (first second third fourth : UInt8) : [first, second, third, fourth].length = 4 := rfl

def Ipv4.ofOctets (first second third fourth : UInt8) : Ipv4 :=
  ⟨[first, second, third, fourth], length_octets first second third fourth⟩

def Ipv4.unspecified : Ipv4 := ⟨[0, 0, 0, 0], rfl⟩

def Ipv4.ofSlice (data : Bytes) (start : Nat) (inside : start + 4 ≤ data.length) : Ipv4 :=
  ⟨(data.drop start).take 4, by rw [List.length_take, List.length_drop]; omega⟩

def Ipv6.ofSlice (data : Bytes) (start : Nat) (inside : start + 16 ≤ data.length) : Ipv6 :=
  ⟨(data.drop start).take 16, by rw [List.length_take, List.length_drop]; omega⟩

inductive IpAddress where
  | v4 (address : Ipv4)
  | v6 (address : Ipv6)
deriving DecidableEq

def IpAddress.family : IpAddress → Family
  | .v4 _ => .v4
  | .v6 _ => .v6

-- An IPv6 endpoint can be tied to one link; scope 0 stands for no such tie.
inductive Endpoint where
  | v4 (address : Ipv4) (port : UInt16)
  | v6 (address : Ipv6) (port : UInt16) (scope : UInt32)
deriving DecidableEq

def Endpoint.family : Endpoint → Family
  | .v4 .. => .v4
  | .v6 .. => .v6

def Endpoint.of (address : IpAddress) (port : UInt16) : Endpoint :=
  match address with
  | .v4 address => .v4 address port
  | .v6 address => .v6 address port 0

end IpTunnel
