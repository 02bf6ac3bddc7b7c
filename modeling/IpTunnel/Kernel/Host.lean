import IpTunnel.Capture
import IpTunnel.Forwarder.Loop
import IpTunnel.Kernel.UdpSocket

namespace IpTunnel

-- A signal comes when everything waits and every descriptor has been read to its end, or, if it is
-- an early one, at the first wait for a time.
inductive Signal where
  | never
  | coming (early : Bool)
  | raised
deriving DecidableEq

structure Kernel where
  now : Nat
  sleep : Nat → Nat
  tunnel : Option TunDevice
  socket4 : Option UdpSocket
  socket6 : Option UdpSocket
  signal : Signal
  recording : Option Capture.Recording
  log : List Notice

namespace Kernel

def socket (kernel : Kernel) : Family → Option UdpSocket
  | .v4 => kernel.socket4
  | .v6 => kernel.socket6

def withSocket (kernel : Kernel) (family : Family) (socket : UdpSocket) : Kernel :=
  match family with
  | .v4 => { kernel with socket4 := some socket }
  | .v6 => { kernel with socket6 := some socket }

def descriptors (kernel : Kernel) : List Descriptor :=
  (kernel.tunnel.map (·.descriptor)).toList ++ (kernel.socket4.map (·.descriptor)).toList ++
    (kernel.socket6.map (·.descriptor)).toList

def say (notices : List Notice) (kernel : Kernel) : Kernel := { kernel with log := kernel.log ++ notices }

def hear (kernel : Kernel) : Option News × Kernel :=
  (if kernel.signal = .raised then some .requested else none, kernel)

def readTunnel (buffer : Bytes) (kernel : Kernel) : Polled Kernel Nat :=
  match kernel.tunnel with
  | none => ⟨kernel, buffer, none⟩
  | some device =>
    let polled := device.read buffer
    ⟨{ kernel with tunnel := some polled.host }, polled.buffer, polled.outcome⟩

def receive (family : Family) (buffer : Bytes) (kernel : Kernel) : Polled Kernel Received :=
  match kernel.socket family with
  | none => ⟨kernel, buffer, none⟩
  | some socket =>
    let receiving := UdpSocket.receive buffer socket.descriptor
    let kernel := kernel.withSocket family { socket with descriptor := receiving.descriptor }
    ⟨kernel.say receiving.notices, receiving.buffer, receiving.outcome⟩

def wake (kernel : Kernel) : Kernel :=
  { kernel with
    tunnel := kernel.tunnel.map fun device => { device with descriptor := device.descriptor.wake }
    socket4 := kernel.socket4.map fun socket => { socket with descriptor := socket.descriptor.wake }
    socket6 := kernel.socket6.map fun socket => { socket with descriptor := socket.descriptor.wake } }

def raise (kernel : Kernel) : Kernel := { kernel.say [.terminationSignal] with signal := .raised }

def isSignalled (timed : Bool) (kernel : Kernel) : Bool :=
  match kernel.signal with
  | .coming true => timed
  | .coming false => kernel.descriptors.all (·.drained)
  | _ => false

-- While everything waits the writer of the capture catches up.
def settle (kernel : Kernel) : Kernel :=
  { kernel with recording := kernel.recording.map (·.settle) }

def await (deadline : Option Nat) (kernel : Kernel) : Waking × Kernel :=
  let kernel := kernel.settle
  if kernel.descriptors.any (·.edge) then (.woken, kernel.wake)
  else if kernel.isSignalled deadline.isSome then (.woken, kernel.raise)
  else
    match deadline with
    | some limit => (.timedOut, { kernel with now := limit })
    | none => (.never, kernel)

def rest (length : Nat) (kernel : Kernel) : Kernel :=
  let kernel := kernel.settle.wake
  let kernel := if kernel.signal = .coming true then kernel.raise else kernel
  { kernel with now := kernel.now + kernel.sleep length }

def capture (packet : Bytes) (kernel : Kernel) : Kernel :=
  match kernel.recording with
  | none => kernel
  | some recording =>
    let (recording, notices) := recording.handOver packet
    { kernel.say notices with recording := some recording }

-- Results that the system still has, and the edges and the signal that need none of them.
def pending (kernel : Kernel) : Nat :=
  kernel.descriptors.foldr (·.work + ·) 0 + kernel.descriptors.length + 1

def sendWithin (family : Family) (packet : Bytes) (peer : Endpoint) :
    Nat → Nat → Kernel → Option (Except IoError Unit) × Kernel
  | 0, _, kernel => (none, kernel)
  | fuel + 1, retries, kernel =>
    match kernel.socket family with
    | none => (none, kernel)
    | some socket =>
      let sending := UdpSocket.send socket.endpoint packet peer retries socket.descriptor
      let kernel := (kernel.withSocket family { socket with descriptor := sending.descriptor }).say sending.notices
      match sending.outcome with
      | some outcome => (some outcome, kernel)
      | none =>
        match kernel.await none with
        | (.woken, kernel) => sendWithin family packet peer fuel sending.retries kernel
        | (_, kernel) => (none, kernel)

def send (family : Family) (packet : Bytes) (peer : Endpoint) (kernel : Kernel) :
    Option (Except IoError Unit) × Kernel :=
  sendWithin family packet peer (kernel.pending + 1) 1 kernel

def writeWithin (frame : Bytes) : Nat → Kernel → Option (Except IoError Unit) × Kernel
  | 0, kernel => (none, kernel)
  | fuel + 1, kernel =>
    match kernel.tunnel with
    | none => (none, kernel)
    | some device =>
      let (device, outcome) := device.write frame
      let kernel := { kernel with tunnel := some device }
      match outcome with
      | some outcome => (some outcome, kernel)
      | none =>
        match kernel.await none with
        | (.woken, kernel) => writeWithin frame fuel kernel
        | (_, kernel) => (none, kernel)

def write (frame : Bytes) (kernel : Kernel) : Option (Except IoError Unit) × Kernel :=
  writeWithin frame (kernel.pending + 1) kernel

instance : Host Kernel where
  now := (·.now)
  hear := hear
  readTunnel := readTunnel
  receive := receive
  await := await
  rest := rest
  say notice := say [notice]
  capture := capture
  send := send
  write := write
  pending := pending

def untilReady (poll : Bytes → Kernel → Polled Kernel α) : Nat → Bytes → Kernel → Polled Kernel α
  | 0, buffer, kernel => ⟨kernel, buffer, none⟩
  | fuel + 1, buffer, kernel =>
    let polled := poll buffer kernel
    match polled.outcome with
    | some _ => polled
    | none =>
      match polled.host.await none with
      | (.woken, kernel) => untilReady poll fuel polled.buffer kernel
      | (_, kernel) => { polled with host := kernel }

def readTunnelReady (buffer : Bytes) (kernel : Kernel) : Polled Kernel Nat :=
  untilReady readTunnel (kernel.pending + 1) buffer kernel

def receiveReady (family : Family) (buffer : Bytes) (kernel : Kernel) : Polled Kernel Received :=
  untilReady (receive family) (kernel.pending + 1) buffer kernel

end Kernel

end IpTunnel
