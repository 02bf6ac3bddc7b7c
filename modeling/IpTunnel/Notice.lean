import IpTunnel.ExtendedError
import IpTunnel.Forwarder.Phase
import IpTunnel.Ip.Header
import IpTunnel.Setup
import IpTunnel.Text.Duration
import IpTunnel.Text.Hex

namespace IpTunnel

inductive Level where
  | error
  | warn
  | info
  | debug
  | trace
deriving DecidableEq

namespace Level

def rank : Level → Nat
  | .error => 1
  | .warn => 2
  | .info => 3
  | .debug => 4
  | .trace => 5

def text : Level → String
  | .error => "ERROR"
  | .warn => "WARN"
  | .info => "INFO"
  | .debug => "DEBUG"
  | .trace => "TRACE"

def all : List Level := [.error, .warn, .info, .debug, .trace]

end Level

inductive Notice where
  | noPrivateAddress (family : Family)
  | noPeers
  | openFailed (cause : IoError)
  | configureFailed (name : String) (cause : IoError)
  | opened (name : String)
  | framed (name : String)
  | bindFailed (endpoint : Endpoint) (cause : IoError)
  | listening (endpoint : Endpoint)
  | capturing (path : String)
  | waiting (milliseconds : Nat)
  | forwarding (name : String) (peers : Nat) (mode : Mode)
  | running (mode : Mode)
  | shuttingDown (milliseconds : Nat)
  | noActivity
  | shutdownLost
  | terminationSignal
  | phase (current : Phase)
  | stopped (reason : StopReason)
  | readFrame (frame : Bytes)
  | shortFrame
  | noSocketInMode (mode : Mode) (packet : Bytes)
  | unsupportedPacket (nibble : UInt8) (packet : Bytes)
  | malformedPacket (cause : IpError)
  | routing (header : Header)
  | noSocket (family : Family) (peer : Endpoint)
  | sent (length : Nat) (peer : Endpoint)
  | earlierFailure (endpoint : Endpoint) (cause : IoError)
  | shortDatagram (family : Family) (datagram : Bytes)
  | received (family : Family) (datagram : Bytes)
  | notIp (family : Family) (datagram : Bytes)
  | wrote (length : Nat)
  | oversized (length room : Nat)
  | receiveFailed (cause : IoError) (report : ExtendedError)
  | notIcmp (family : Family) (report : ExtendedError)
  | receivedIcmp (message : Icmp.Message)
  | noPrivateTarget (family : Family) (message : Icmp.Message)
  | forgeFailed (message : Icmp.Message) (cause : IpError)
  | writingForged (frame : Bytes)
  | clockBeforeEpoch
  | captureFull
  | captureWriteFailed (cause : IoError)
  | captureFlushFailed (cause : IoError)

namespace Notice

def level : Notice → Level
  | openFailed _ | configureFailed .. | bindFailed .. | captureFull | captureWriteFailed _
  | captureFlushFailed _ => .error
  | noPrivateAddress _ | noPeers | shutdownLost | earlierFailure .. | forgeFailed .. | clockBeforeEpoch => .warn
  | opened _ | listening _ | waiting _ | forwarding .. | shuttingDown _ | noActivity | terminationSignal
  | stopped _ => .info
  | readFrame _ | routing _ | sent .. | received .. | wrote _ | writingForged _ => .trace
  | framed _ | capturing _ | running _ | phase _ | shortFrame | noSocketInMode .. | unsupportedPacket ..
  | malformedPacket _ | noSocket .. | shortDatagram .. | notIp .. | oversized .. | receiveFailed ..
  | notIcmp .. | receivedIcmp _ | noPrivateTarget .. => .debug

def area : Notice → String
  | terminationSignal => "udptun"
  | noPrivateAddress _ | noPeers | waiting _ | forwarding .. | phase _ | stopped _ => "udptun::tunnel"
  | openFailed _ | configureFailed .. | opened _ | framed _ => "udptun::device"
  | bindFailed .. | listening _ | earlierFailure .. | oversized .. | receiveFailed .. => "udptun::socket"
  | capturing _ | clockBeforeEpoch | captureFull | captureWriteFailed _ | captureFlushFailed _ => "udptun::pcap"
  | unsupportedPacket .. | malformedPacket _ | routing _ => "udptun::demux"
  | running _ | shuttingDown _ | noActivity | shutdownLost | readFrame _ | shortFrame | noSocketInMode ..
  | noSocket .. | sent .. | shortDatagram .. | received .. | notIp .. | wrote _ | notIcmp .. | receivedIcmp _
  | noPrivateTarget .. | forgeFailed .. | writingForged _ => "udptun::forwarder"

def icmpName : Family → String
  | .v4 => "ICMP"
  | .v6 => "ICMPv6"

def text : Notice → String
  | noPrivateAddress family =>
    s!"No private {family} address configured, {icmpName family} errors will not be forwarded"
  | noPeers => "Peer table is empty"
  | openFailed cause => s!"Failed to open tunnel device: {cause}"
  | configureFailed name cause => s!"Failed to configure tunnel device {name}: {cause}"
  | opened name => s!"Opened tunnel device {name}"
  | framed name => s!"Tunnel device {name} uses packet information headers"
  | bindFailed endpoint cause => s!"Failed to bind UDP socket to {endpoint}: {cause}"
  | listening endpoint => s!"Listening on {endpoint}"
  | capturing path => s!"Capturing tunnel traffic to {path}"
  | waiting milliseconds => s!"Waiting {Text.duration milliseconds} before forwarding"
  | forwarding name peers mode => s!"Forwarding between {name} and {peers} peers in {mode} mode"
  | running mode => s!"Forwarder is running in {mode} mode"
  | shuttingDown milliseconds => s!"Shutting down in {Text.duration milliseconds}"
  | noActivity => "No activity, stopping"
  | shutdownLost => "Shutdown handler is gone, the tunnel can only stop when idle"
  | terminationSignal => "Received termination signal"
  | phase current => s!"Forwarder is {current}"
  | stopped reason => s!"Tunnel stopped: {reason}"
  | readFrame frame => s!"Read {frame.length} bytes from tunnel\n{Text.Hex.dump frame}"
  | shortFrame => "Tunnel frame is shorter than its framing header"
  | noSocketInMode mode packet =>
    s!"No socket for tunnel packet in {mode} mode, dropping\n{Text.Hex.dump packet}"
  | unsupportedPacket nibble packet =>
    s!"Dropping tunnel packet with unsupported IP version {nibble.toNat}\n{Text.Hex.dump packet}"
  | malformedPacket cause => s!"Dropping malformed tunnel packet: {cause}"
  | routing header => s!"Routing tunnel packet {header}"
  | noSocket family peer => s!"No {family} socket, dropping packet to {peer}"
  | sent length peer => s!"Sent {length} bytes to {peer}"
  | earlierFailure endpoint cause => s!"Send to {endpoint} reported an earlier failure: {cause}"
  | shortDatagram family datagram =>
    s!"Discarding {datagram.length}-byte {family} datagram\n{Text.Hex.dump datagram}"
  | received family datagram =>
    s!"Received {datagram.length} bytes over {family}\n{Text.Hex.dump datagram}"
  | notIp family datagram => s!"Discarding non-IP {family} datagram\n{Text.Hex.dump datagram}"
  | wrote length => s!"Wrote {length} bytes to tunnel"
  | oversized length room => s!"Dropping {length}-byte datagram, larger than {room} byte buffer"
  | receiveFailed cause report => s!"Receive failed with {cause}, error queue has {report}"
  | notIcmp family report => s!"Ignoring non-ICMP {family} socket error: {report}"
  | receivedIcmp message => s!"Received {message}"
  | noPrivateTarget family message => s!"No private {family} address to forward {message}"
  | forgeFailed message cause => s!"Failed to rebuild {message}: {cause}"
  | writingForged frame => s!"Writing rebuilt ICMP packet to tunnel\n{Text.Hex.dump frame}"
  | clockBeforeEpoch =>
    "Failed to convert time into UNIX for PCAP: second time provided was later than self"
  | captureFull => "PCAP send buffer is full, some data will be lost: no available capacity"
  | captureWriteFailed cause => s!"Failed to write packet to PCAP file: {cause}"
  | captureFlushFailed cause => s!"Failed to flush PCAP file: {cause}"

def line (notice : Notice) : String := s!"{notice.level.text} {notice.area} -- {notice.text}"

-- Whether a log up to `limit` shows the notice; without a limit there is no log.
def isShown (limit : Option Level) (notice : Notice) : Bool :=
  match limit with
  | some limit => notice.level.rank ≤ limit.rank
  | none => false

end Notice

def Setup.warnings (setup : Setup) : List Notice :=
  ([.v4, .v6].filter fun family =>
      setup.mode.supports (.known family) && (setup.privateAddress (.known family)).isNone).map .noPrivateAddress ++
    if setup.peers.isEmpty then [.noPeers] else []

end IpTunnel
