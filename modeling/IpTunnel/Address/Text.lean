import IpTunnel.Address

namespace IpTunnel

def Ipv4.text (address : Ipv4) : String :=
  ".".intercalate (address.octets.map fun octet => toString octet.toNat)

instance : ToString Ipv4 := ⟨Ipv4.text⟩

namespace Ipv6

def groupsOf : Bytes → List Nat
  | high :: low :: rest => (high.toNat * 256 + low.toNat) :: groupsOf rest
  | _ => []

def groups (address : Ipv6) : List Nat := groupsOf address.octets

def mapped? (address : Ipv6) : Option Ipv4 :=
  if address.groups.take 6 = [0, 0, 0, 0, 0, 0xFFFF] then
    some (Ipv4.ofSlice address.octets 12 (by have := address.size; omega))
  else none

def zeroRun (groups : List Nat) (start : Nat) : Nat := ((groups.drop start).takeWhile (· = 0)).length

-- Start and length of the longest run of zero groups, the first one of several.
def longestZeroRun (groups : List Nat) : Nat × Nat :=
  (List.range groups.length).foldl
    (fun best start => if best.2 < zeroRun groups start then (start, zeroRun groups start) else best) (0, 0)

def writeGroups (groups : List Nat) : String :=
  ":".intercalate (groups.map fun group => String.ofList (Nat.toDigits 16 group))

def text (address : Ipv6) : String :=
  match address.mapped? with
  | some inner => s!"::ffff:{inner}"
  | none =>
    let run := longestZeroRun address.groups
    if 1 < run.2 then
      writeGroups (address.groups.take run.1) ++ "::" ++ writeGroups (address.groups.drop (run.1 + run.2))
    else writeGroups address.groups

instance : ToString Ipv6 := ⟨Ipv6.text⟩

end Ipv6

def IpAddress.text : IpAddress → String
  | .v4 address => address.text
  | .v6 address => address.text

instance : ToString IpAddress := ⟨IpAddress.text⟩

def Endpoint.text : Endpoint → String
  | .v4 address port => s!"{address}:{port.toNat}"
  | .v6 address port scope =>
    if scope = 0 then s!"[{address}]:{port.toNat}" else s!"[{address}%{scope.toNat}]:{port.toNat}"

instance : ToString Endpoint := ⟨Endpoint.text⟩

end IpTunnel
