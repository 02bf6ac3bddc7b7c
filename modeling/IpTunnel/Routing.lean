import IpTunnel.Notice

namespace IpTunnel

inductive Route where
  | forward (family : Family) (peer : Endpoint)
  | drop
deriving DecidableEq

structure Routed where
  notices : List Notice
  outcome : Except TunnelError Route

def route (packet : Bytes) (peers : PeerTable) : Routed :=
  match Header.read packet with
  | .error (.unsupportedVersion nibble) => ⟨[.unsupportedPacket nibble packet], .ok .drop⟩
  | .error cause => ⟨[.malformedPacket cause], .ok .drop⟩
  | .ok header =>
    match peers.lookup header.target with
    | some peer => ⟨[.routing header], .ok (.forward header.target.family peer)⟩
    | none => ⟨[.routing header], .error (.peerNotFound header.target)⟩

end IpTunnel
