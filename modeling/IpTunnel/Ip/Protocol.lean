namespace IpTunnel

structure Protocol where
  number : UInt8
deriving DecidableEq

namespace Protocol

def icmp : Protocol := ⟨1⟩
def tcp : Protocol := ⟨6⟩
def udp : Protocol := ⟨17⟩
def icmp6 : Protocol := ⟨58⟩

def text (protocol : Protocol) : String :=
  if protocol = icmp then "ICMP"
  else if protocol = tcp then "TCP"
  else if protocol = udp then "UDP"
  else if protocol = icmp6 then "IPv6-ICMP"
  else s!"Unknown IP transport protocol {protocol.number.toNat}"

instance : ToString Protocol := ⟨text⟩

end Protocol

end IpTunnel
