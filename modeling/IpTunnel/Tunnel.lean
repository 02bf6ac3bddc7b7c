import IpTunnel.Directory
import IpTunnel.Kernel.Host

namespace IpTunnel

-- What a run finds: the nodes behind its device and sockets, a signal that may come, how long a sleep
-- lasts, and how a capture goes.
structure Machine where
  tunnel : TunNode
  socket4 : UdpNode
  socket6 : UdpNode
  signal : Signal
  sleep : Nat → Nat
  turns : Nat → Capture.Turn

namespace Tunnel

structure Finished where
  log : List Notice
  tunnelCalls : List Call
  calls4 : List Call
  calls6 : List Call
  directory : Directory
  ending : Ending

def ioFailure (cause : IoError) : Ending := .failed (.io cause)

def openSocket (setup : Setup) (family : Family) (node : UdpNode) : Opening (Option UdpSocket) :=
  match setup.listenAddress (.known family) with
  | none => ⟨[], [], .ok none⟩
  | some address =>
    let opening := UdpSocket.listen address setup.port node
    ⟨opening.calls, opening.notices, opening.outcome.map some⟩

def captureFile (setup : Setup) (directory : Directory) : Except IoError (Option String) :=
  match setup.capturePath with
  | none => .ok none
  | some path => (directory.create path).map some

def kernel (machine : Machine) (device : TunDevice) (socket4 socket6 : Option UdpSocket) (capturing : Bool)
    (log : List Notice) : Kernel where
  now := 0
  sleep := machine.sleep
  tunnel := some device
  socket4 := socket4
  socket6 := socket6
  signal := machine.signal
  recording := if capturing then some (.start machine.turns) else none
  log := log

def initialSleep (setup : Setup) (kernel : Kernel) : Kernel :=
  if setup.initialSleep = 0 then kernel
  else Kernel.rest setup.initialSleep (kernel.say [.waiting setup.initialSleep])

def farewell (phase : Phase) : Ending → List Notice
  | .stopped reason => [.phase phase, .stopped reason]
  | _ => [.phase phase]

def writeCapture (file : Option String) (kernel : Kernel) (directory : Directory) : Directory :=
  match file, kernel.recording with
  | some name, some recording => directory.write name recording.settle.recorder.file
  | _, _ => directory

def callsOf (socket : Option UdpSocket) : List Call := (socket.map (·.descriptor.calls)).getD []

-- Forwards over what has been opened; the calls of the opening come first.
def forward (setup : Setup) (name : String) (start : Kernel) (file : Option String) (opened : Finished) : Finished :=
  let ready := (initialSleep setup start).say [.forwarding name setup.peers.size setup.mode]
  let (finished, ending) := Forwarder.run setup ready
  let kernel := finished.host.say (farewell finished.session.phase ending)
  { log := kernel.log
    tunnelCalls := opened.tunnelCalls ++ (kernel.tunnel.map (·.descriptor.calls)).getD []
    calls4 := opened.calls4 ++ callsOf kernel.socket4
    calls6 := opened.calls6 ++ callsOf kernel.socket6
    directory := writeCapture file kernel opened.directory
    ending := ending }

-- Opens the device, the sockets and the capture, in this order, and forwards.
def run (setup : Setup) (machine : Machine) (directory : Directory) : Finished :=
  let device := TunDevice.create setup.tunName setup.framing machine.tunnel
  let opened : Finished := ⟨device.notices, device.calls, [], [], directory, .stuck⟩
  match device.outcome with
  | .error cause => { opened with ending := ioFailure cause }
  | .ok tunnel =>
    let socket4 := openSocket setup .v4 machine.socket4
    let opened := { opened with log := opened.log ++ socket4.notices, calls4 := socket4.calls }
    match socket4.outcome with
    | .error cause => { opened with ending := ioFailure cause }
    | .ok found4 =>
      let socket6 := openSocket setup .v6 machine.socket6
      let opened := { opened with log := opened.log ++ socket6.notices, calls6 := socket6.calls }
      match socket6.outcome with
      | .error cause => { opened with ending := ioFailure cause }
      | .ok found6 =>
        match captureFile setup directory with
        | .error cause => { opened with ending := ioFailure cause }
        | .ok file =>
          let log := opened.log ++ (setup.capturePath.map .capturing).toList
          forward setup tunnel.name (kernel machine tunnel found4 found6 file.isSome log) file opened

end Tunnel

end IpTunnel
