namespace IpTunnel

inductive IpError where
  | unsupportedVersion (nibble : UInt8)
  | emptyPacket
  | shortIpv4Header
  | shortIpv6Header
  | noSpaceForFraming
  | noSpaceForIpv4Header
  | noSpaceForIpv6Header
  | ipv4LengthOverflow
  | ipv6LengthOverflow
  | shortFragment
  | mixedFamilies
  | noSpaceForIcmpv4
  | noSpaceForIcmpv6
  | shortExtendedError
deriving DecidableEq

def IpError.message : IpError → String
  | .unsupportedVersion nibble => s!"Unsupported IP version {nibble.toNat}"
  | .emptyPacket => "Packet is empty"
  | .shortIpv4Header => "Not enough bytes in IPv4 header"
  | .shortIpv6Header => "Not enough bytes in IPv6 header"
  | .noSpaceForFraming => "Not enough space for framing header"
  | .noSpaceForIpv4Header => "Not enough space for IPv4 header"
  | .noSpaceForIpv6Header => "Not enough space for IPv6 header"
  | .ipv4LengthOverflow => "IPv4 total length overflow"
  | .ipv6LengthOverflow => "IPv6 payload length overflow"
  | .shortFragment => "Not enough original datagram data to rebuild ICMP message"
  | .mixedFamilies => "ICMP offender and tunnel address families don't match"
  | .noSpaceForIcmpv4 => "Not enough space for forged ICMPv4 packet"
  | .noSpaceForIcmpv6 => "Not enough space for forged ICMPv6 packet"
  | .shortExtendedError => "Not enough data in extended socket error"

instance : ToString IpError := ⟨IpError.message⟩

end IpTunnel
