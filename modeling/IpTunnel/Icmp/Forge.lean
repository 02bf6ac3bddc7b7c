import IpTunnel.Icmp.Message
import IpTunnel.Ip.Header

namespace IpTunnel.Icmp

def quotedLength : Nat := 8
def messageLength : Nat := 16
def forgedIpv4Length : Nat := 36
def forgedIpv6Length : Nat := 56

namespace Message

def restOfHeader4 (message : Message) : Bytes :=
  if message.kind = 3 ∧ message.code = 4 then
    [0, 0] ++ Bytes.be16 (UInt16.ofNat (min message.info.toNat 0xFFFF))
  else [0, 0, 0, 0]

def restOfHeader6 (message : Message) : Bytes :=
  if message.kind = 2 then Bytes.be32 message.info else [0, 0, 0, 0]

theorem length_restOfHeader4 (message : Message) : message.restOfHeader4.length = 4 := by
  unfold restOfHeader4
  split <;> rfl

theorem length_restOfHeader6 (message : Message) : message.restOfHeader6.length = 4 := by
  unfold restOfHeader6
  split <;> rfl

def bodyWith (sum : UInt16) (message : Message) (restOfHeader quoted : Bytes) : Bytes :=
  [message.kind, message.code] ++ Bytes.be16 sum ++ restOfHeader ++ quoted

-- The ICMPv4 checksum covers the message alone, the ICMPv6 checksum the pseudo-header as well.
def body4 (message : Message) (quoted : Bytes) : Bytes :=
  bodyWith (checksum (bodyWith 0 message message.restOfHeader4 quoted)) message message.restOfHeader4 quoted

def body6 (message : Message) (source target : Ipv6) (quoted : Bytes) : Bytes :=
  let sum := (Checksum.pseudoHeader source target .icmp6 messageLength).add
    (bodyWith 0 message message.restOfHeader6 quoted)
  bodyWith sum.fold.value message message.restOfHeader6 quoted

def forgeIpv4 (message : Message) (quoted : Bytes) (source target : Ipv4) (buffer : Bytes) : Written :=
  if buffer.length < forgedIpv4Length then ⟨buffer, .error .noSpaceForIcmpv4⟩
  else
    let written := Header.writeIpv4 (buffer.overwrite Header.ipv4Length (message.body4 quoted))
      source target .icmp messageLength
    ⟨written.buffer, written.outcome.map fun _ => forgedIpv4Length⟩

def forgeIpv6 (message : Message) (quoted : Bytes) (source target : Ipv6) (buffer : Bytes) : Written :=
  if buffer.length < forgedIpv6Length then ⟨buffer, .error .noSpaceForIcmpv6⟩
  else
    let written := Header.writeIpv6 (buffer.overwrite Header.ipv6Length (message.body6 source target quoted))
      source target .icmp6 messageLength
    ⟨written.buffer, written.outcome.map fun _ => forgedIpv6Length⟩

def forge (message : Message) (fragment : Bytes) (target : IpAddress) (buffer : Bytes) : Written :=
  if fragment.length < quotedLength then ⟨buffer, .error .shortFragment⟩
  else
    match message.offender, target with
    | .v4 source, .v4 target => message.forgeIpv4 (fragment.take quotedLength) source target buffer
    | .v6 source, .v6 target => message.forgeIpv6 (fragment.take quotedLength) source target buffer
    | _, _ => ⟨buffer, .error .mixedFamilies⟩

end Message

end IpTunnel.Icmp
