import IpTunnel.Address.Text
import IpTunnel.Checksum
import IpTunnel.Ip.Version

namespace IpTunnel

inductive Header where
  | v4 (protocol : Protocol) (source target : Ipv4)
  | v6 (protocol : Protocol) (source target : Ipv6)
deriving DecidableEq

namespace Header

def ipv4Length : Nat := 20
def ipv6Length : Nat := 40

-- Reads an IPv4 header, whatever the version nibble says.
def readIpv4 (data : Bytes) : Except IpError Header :=
  if enough : 20 ≤ data.length then
    .ok (.v4 ⟨data[9]⟩ (Ipv4.ofSlice data 12 (by omega)) (Ipv4.ofSlice data 16 (by omega)))
  else .error .shortIpv4Header

def readIpv6 (data : Bytes) : Except IpError Header :=
  if enough : 40 ≤ data.length then
    .ok (.v6 ⟨data[6]⟩ (Ipv6.ofSlice data 8 (by omega)) (Ipv6.ofSlice data 24 (by omega)))
  else .error .shortIpv6Header

def read (packet : Bytes) : Except IpError Header :=
  match Version.ofPacket? packet with
  | some (.known .v4) => readIpv4 packet
  | some (.known .v6) => readIpv6 packet
  | some (.unknown nibble) => .error (.unsupportedVersion nibble)
  | none => .error .emptyPacket

def protocol : Header → Protocol
  | .v4 protocol _ _ => protocol
  | .v6 protocol _ _ => protocol

def source : Header → IpAddress
  | .v4 _ source _ => .v4 source
  | .v6 _ source _ => .v6 source

def target : Header → IpAddress
  | .v4 _ _ target => .v4 target
  | .v6 _ _ target => .v6 target

def text (header : Header) : String :=
  s!"{header.target.family} {header.protocol} {header.source} -> {header.target}"

instance : ToString Header := ⟨text⟩

def ipv4With (sum : UInt16) (protocol : Protocol) (source target : Ipv4) (total : UInt16) : Bytes :=
  [0x45, 0] ++ Bytes.be16 total ++ [0, 0, 0, 0, 255, protocol.number] ++ Bytes.be16 sum ++
    source.octets ++ target.octets

-- The header whose checksum was taken with zeros in the checksum's place.
def ipv4 (protocol : Protocol) (source target : Ipv4) (total : UInt16) : Bytes :=
  ipv4With (checksum (ipv4With 0 protocol source target total)) protocol source target total

def ipv6 (protocol : Protocol) (source target : Ipv6) (payload : UInt16) : Bytes :=
  [0x60, 0, 0, 0] ++ Bytes.be16 payload ++ [protocol.number, 255] ++ source.octets ++ target.octets

theorem length_ipv4With (sum : UInt16) (protocol : Protocol) (source target : Ipv4) (total : UInt16) :
    (ipv4With sum protocol source target total).length = ipv4Length := by
  simp [ipv4With, source.size, target.size, ipv4Length]

theorem length_ipv4 (protocol : Protocol) (source target : Ipv4) (total : UInt16) :
    (ipv4 protocol source target total).length = ipv4Length := length_ipv4With _ _ _ _ _

theorem length_ipv6 (protocol : Protocol) (source target : Ipv6) (payload : UInt16) :
    (ipv6 protocol source target payload).length = ipv6Length := by
  simp [ipv6, source.size, target.size, ipv6Length]

def writeIpv4 (buffer : Bytes) (source target : Ipv4) (protocol : Protocol) (payload : Nat) : Written :=
  if buffer.length < ipv4Length then ⟨buffer, .error .noSpaceForIpv4Header⟩
  else if 0xFFFF < ipv4Length + payload then ⟨buffer, .error .ipv4LengthOverflow⟩
  else
    ⟨buffer.overwrite 0 (ipv4 protocol source target (UInt16.ofNat (ipv4Length + payload))), .ok ipv4Length⟩

def writeIpv6 (buffer : Bytes) (source target : Ipv6) (protocol : Protocol) (payload : Nat) : Written :=
  if buffer.length < ipv6Length then ⟨buffer, .error .noSpaceForIpv6Header⟩
  else if 0xFFFF < payload then ⟨buffer, .error .ipv6LengthOverflow⟩
  else ⟨buffer.overwrite 0 (ipv6 protocol source target (UInt16.ofNat payload)), .ok ipv6Length⟩

end Header

end IpTunnel
