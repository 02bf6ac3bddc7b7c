import IpTunnel.Forwarder.Host
import IpTunnel.Icmp.Forge
import IpTunnel.Routing

namespace IpTunnel

inductive Deed where
  | say (notice : Notice)
  | capture (packet : Bytes)
  | send (family : Family) (packet : Bytes) (peer : Endpoint)
  | write (frame : Bytes)
  | fail (cause : TunnelError)
  | overrun

def bufferLength : Nat := 2048

-- Anything up to this length is a keep-alive or a probe and carries no packet.
def longestProbe : Nat := 32

structure Buffers where
  tunnel : Bytes
  datagram4 : Bytes
  datagram6 : Bytes
  forged : Bytes

namespace Buffers

def initial : Buffers where
  tunnel := List.replicate bufferLength 0
  datagram4 := List.replicate bufferLength 0
  datagram6 := List.replicate bufferLength 0
  forged := List.replicate (framingLength + Icmp.forgedIpv6Length) 0

def datagram (buffers : Buffers) : Family → Bytes
  | .v4 => buffers.datagram4
  | .v6 => buffers.datagram6

def withDatagram (buffers : Buffers) (family : Family) (buffer : Bytes) : Buffers :=
  match family with
  | .v4 => { buffers with datagram4 := buffer }
  | .v6 => { buffers with datagram6 := buffer }

def behindFraming (buffer part : Bytes) : Bytes := buffer.take framingLength ++ part

end Buffers

structure Plan where
  deeds : List Deed
  buffer : Bytes

namespace Plan

def isForeign (setup : Setup) (packet : Bytes) : Bool :=
  match Version.ofPacket? packet with
  | some (.known family) => !setup.hasSocket family
  | _ => false

-- Foreign packets are dropped before the lookup: a miss there ends the run.
def ofPacket (setup : Setup) (packet : Bytes) : List Deed :=
  if isForeign setup packet then [.say (.noSocketInMode setup.mode packet)]
  else
    let routed := route packet setup.peers
    routed.notices.map .say ++
      match routed.outcome with
      | .error cause => [.fail cause]
      | .ok .drop => []
      | .ok (.forward family peer) =>
        if setup.hasSocket family then [.send family packet peer, .say (.sent packet.length peer)]
        else [.say (.noSocket family peer)]

def ofFrame (setup : Setup) (frame : Bytes) : List Deed :=
  .say (.readFrame frame) ::
    match stripFraming? setup.framingLength frame with
    | none => [.say .shortFrame]
    | some packet => .capture packet :: ofPacket setup packet

def enframe (setup : Setup) (version : Version) (buffer : Bytes) (stop : Nat) (deeds : Bytes → List Deed) : Plan :=
  let start := framingLength - setup.framingLength
  let framed : Written :=
    if 0 < setup.framingLength then
      let written := version.writeFraming (buffer.drop start)
      ⟨buffer.take start ++ written.buffer, written.outcome⟩
    else ⟨buffer, .ok 0⟩
  match framed.outcome with
  | .error cause => ⟨[.fail (.ip cause)], framed.buffer⟩
  | .ok _ =>
    match framed.buffer.slice? start stop with
    | none => ⟨[.overrun], framed.buffer⟩
    | some frame => ⟨deeds frame, framed.buffer⟩

def after (deeds : List Deed) (plan : Plan) : Plan := ⟨deeds ++ plan.deeds, plan.buffer⟩

-- The tunnel device rejects what is not IP, and a failed write ends the run.
def ofDatagram (setup : Setup) (family : Family) (buffer : Bytes) (length : Nat) : Plan :=
  match buffer.slice? framingLength (framingLength + length) with
  | none => ⟨[.overrun], buffer⟩
  | some datagram =>
    if length ≤ longestProbe then ⟨[.say (.shortDatagram family datagram)], buffer⟩
    else
      after [.say (.received family datagram)] <|
        match Version.ofPacket? datagram with
        | some (.known inner) =>
          after [.capture datagram] <|
            enframe setup (.known inner) buffer (framingLength + length) fun frame =>
              [.write frame, .say (.wrote frame.length)]
        | _ => ⟨[.say (.notIp family datagram)], buffer⟩

def deliver (setup : Setup) (target : IpAddress) (forged : Bytes) (length : Nat) : Plan :=
  match forged.slice? framingLength (framingLength + length) with
  | none => ⟨[.overrun], forged⟩
  | some packet =>
    after [.capture packet] <|
      enframe setup (.known target.family) forged (framingLength + length) fun frame =>
        [.say (.writingForged frame), .write frame]

-- A failure of a datagram sent earlier; the start of that datagram is in `buffer`.
def ofReport (setup : Setup) (family : Family) (error : ExtendedError) (buffer : Bytes) (length : Nat)
    (forged : Bytes) : Plan :=
  match error.icmp? with
  | none => ⟨[.say (.notIcmp family error)], forged⟩
  | some message =>
    after [.say (.receivedIcmp message)] <|
      match setup.privateAddress (.known family) with
      | none => ⟨[.say (.noPrivateTarget family message)], forged⟩
      | some target =>
        match buffer.slice? framingLength (framingLength + length) with
        | none => ⟨[.overrun], forged⟩
        | some fragment =>
          let written := message.forge fragment target (forged.drop framingLength)
          let forged := Buffers.behindFraming forged written.buffer
          match written.outcome with
          | .error cause => ⟨[.say (.forgeFailed message cause)], forged⟩
          | .ok count => deliver setup target forged count

end Plan

end IpTunnel
