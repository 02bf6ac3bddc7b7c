import IpTunnel.Capture
import IpTunnel.Forwarder.Loop

namespace IpTunnel

-- An event is ready if it is the first of its device and its time has come.
structure Scheduled (α : Type) where
  due : Nat
  outcome : Except IoError α

inductive Delivery where
  | datagram (data : Bytes)
  | report (error : ExtendedError) (fragment : Bytes)

inductive Device where
  | tunnel
  | socket (family : Family)
deriving DecidableEq

inductive Entry where
  | read (device : Device) (outcome : Except IoError Nat)
  | write (frame : Bytes) (outcome : Except IoError Unit)
  | send (family : Family) (packet : Bytes) (peer : Endpoint) (outcome : Except IoError Unit)

-- Only the sockets that the mode supports exist; what is planned for another one stays unread.
structure Script where
  mode : Mode
  now : Nat
  -- How long a sleep lasts that is meant to last for so many milliseconds.
  sleep : Nat → Nat
  tunnel : List (Scheduled Bytes)
  socket4 : List (Scheduled Delivery)
  socket6 : List (Scheduled Delivery)
  tunnelResults : List (Except IoError Unit)
  results4 : List (Except IoError Unit)
  results6 : List (Except IoError Unit)
  shutdown : Option (Nat × News)
  recording : Option Capture.Recording
  trace : List Entry
  log : List Notice

namespace Script

def socket (script : Script) : Family → List (Scheduled Delivery)
  | .v4 => script.socket4
  | .v6 => script.socket6

def withSocket (script : Script) (family : Family) (events : List (Scheduled Delivery)) : Script :=
  match family with
  | .v4 => { script with socket4 := events }
  | .v6 => { script with socket6 := events }

def record (script : Script) (entry : Entry) : Script := { script with trace := script.trace ++ [entry] }

def hear (script : Script) : Option News × Script :=
  match script.shutdown with
  | some (due, news) => if due ≤ script.now then (some news, { script with shutdown := none }) else (none, script)
  | none => (none, script)

def readTunnel (buffer : Bytes) (script : Script) : Polled Script Nat :=
  match script.tunnel with
  | [] => ⟨script, buffer, none⟩
  | event :: rest =>
    if script.now < event.due then ⟨script, buffer, none⟩
    else
      let script := { script with tunnel := rest }
      match event.outcome with
      | .error cause => ⟨script.record (.read .tunnel (.error cause)), buffer, some (.error cause)⟩
      | .ok data =>
        let length := min data.length buffer.length
        ⟨script.record (.read .tunnel (.ok length)), buffer.fill 0 data, some (.ok length)⟩

def deliver (family : Family) (buffer : Bytes) (script : Script) : Delivery → Polled Script Received
  | .datagram data =>
    let length := min data.length buffer.length
    ⟨script.record (.read (.socket family) (.ok length)), buffer.fill 0 data, some (.ok (.datagram length))⟩
  | .report error fragment =>
    let length := min fragment.length buffer.length
    ⟨script.record (.read (.socket family) (.ok length)), buffer.fill 0 fragment, some (.ok (.report error length))⟩

def receive (family : Family) (buffer : Bytes) (script : Script) : Polled Script Received :=
  match script.socket family with
  | [] => ⟨script, buffer, none⟩
  | event :: rest =>
    if script.now < event.due then ⟨script, buffer, none⟩
    else
      let script := script.withSocket family rest
      match event.outcome with
      | .error cause => ⟨script.record (.read (.socket family) (.error cause)), buffer, some (.error cause)⟩
      | .ok delivery => deliver family buffer script delivery

def upcoming (script : Script) : List Nat :=
  let socket (family : Family) : List Nat :=
    if script.mode.supports (.known family) then ((script.socket family).head?.map (·.due)).toList else []
  (script.tunnel.head?.map (·.due)).toList ++ socket .v4 ++ socket .v6 ++ (script.shutdown.map (·.1)).toList

def await (deadline : Option Nat) (script : Script) : Waking × Script :=
  match script.upcoming.min?, deadline with
  | some due, some limit =>
    if due ≤ limit then (.woken, { script with now := max script.now due })
    else (.timedOut, { script with now := limit })
  | some due, none => (.woken, { script with now := max script.now due })
  | none, some limit => (.timedOut, { script with now := limit })
  | none, none => (.never, script)

def say (notice : Notice) (script : Script) : Script := { script with log := script.log ++ [notice] }

def capture (packet : Bytes) (script : Script) : Script :=
  match script.recording with
  | none => script
  | some recording =>
    let (recording, notices) := recording.handOver packet
    { script with recording := some recording, log := script.log ++ notices }

-- The next of a device's results; a write succeeds once they are used up.
def nextResult (results : List (Except IoError Unit)) : Except IoError Unit := results.head?.getD (.ok ())

def send (family : Family) (packet : Bytes) (peer : Endpoint) (script : Script) :
    Option (Except IoError Unit) × Script :=
  match family with
  | .v4 =>
    let outcome := nextResult script.results4
    (some outcome, { script with results4 := script.results4.tail }.record (.send family packet peer outcome))
  | .v6 =>
    let outcome := nextResult script.results6
    (some outcome, { script with results6 := script.results6.tail }.record (.send family packet peer outcome))

def write (frame : Bytes) (script : Script) : Option (Except IoError Unit) × Script :=
  let outcome := nextResult script.tunnelResults
  (some outcome, { script with tunnelResults := script.tunnelResults.tail }.record (.write frame outcome))

-- Events that no device has delivered, the news of a shutdown among them.
def pending (script : Script) : Nat :=
  script.tunnel.length + script.socket4.length + script.socket6.length + script.shutdown.toList.length

instance : Host Script where
  now := (·.now)
  hear := hear
  readTunnel := readTunnel
  receive := receive
  await := await
  rest length script := { script with now := script.now + script.sleep length }
  say := say
  capture := capture
  send := send
  write := write
  pending := pending

end Script

end IpTunnel
