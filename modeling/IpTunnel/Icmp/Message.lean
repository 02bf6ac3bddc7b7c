import IpTunnel.Address.Text

namespace IpTunnel.Icmp

-- `info` is the next hop's MTU where the message is about size.
structure Message where
  kind : UInt8
  code : UInt8
  info : UInt32
  offender : IpAddress
deriving DecidableEq

def unreachable4 (code : UInt8) : String :=
  match code.toNat with
  | 0 => "Destination network unreachable"
  | 1 => "Destination host unreachable"
  | 2 => "Destination protocol unreachable"
  | 3 => "Destination port unreachable"
  | 4 => "Fragmentation required, and DF flag set"
  | 5 => "Source route failed"
  | 6 => "Destination network unknown"
  | 7 => "Destination host unknown"
  | 8 => "Source host isolated"
  | 9 => "Network administratively prohibited"
  | 10 => "Host administratively prohibited"
  | 11 => "Network unreachable for ToS"
  | 12 => "Host unreachable for ToS"
  | 13 => "Communication administratively prohibited"
  | other => toString other

def timeExceeded4 (code : UInt8) : String :=
  match code.toNat with
  | 0 => "Time to live (TTL) expired in transit"
  | 1 => "Fragment reassembly time exceeded"
  | other => toString other

def describe4 (kind code : UInt8) : String :=
  match kind.toNat with
  | 0 => "Echo Reply"
  | 3 => s!"Destination Unreachable ({unreachable4 code})"
  | 4 => "Source Quench"
  | 5 => "Redirect"
  | 8 => "Echo Request"
  | 11 => s!"Time Exceeded ({timeExceeded4 code})"
  | 12 => s!"Parameter Problem ({code.toNat})"
  | other => s!"{other} ({code.toNat})"

def unreachable6 (code : UInt8) : String :=
  match code.toNat with
  | 0 => "No route to destination"
  | 1 => "Communication with destination administratively prohibited"
  | 2 => "Beyond scope of source address"
  | 3 => "Address unreachable"
  | 4 => "Port unreachable"
  | 5 => "Source address failed ingress/egress policy"
  | 6 => "Reject route to destination"
  | other => toString other

def describe6 (kind code : UInt8) : String :=
  match kind.toNat with
  | 1 => s!"Destination Unreachable ({unreachable6 code})"
  | 2 => "Packet Too Big"
  | 3 => s!"Time Exceeded ({code.toNat})"
  | 4 => s!"Parameter Problem ({code.toNat})"
  | 128 => "Echo Request"
  | 129 => "Echo Reply"
  | other => s!"{other} ({code.toNat})"

def Message.text (message : Message) : String :=
  match message.offender with
  | .v4 offender => s!"ICMPv4 {describe4 message.kind message.code} from {offender}"
  | .v6 offender => s!"ICMPv6 {describe6 message.kind message.code} from {offender}"

instance : ToString Message := ⟨Message.text⟩

end IpTunnel.Icmp
