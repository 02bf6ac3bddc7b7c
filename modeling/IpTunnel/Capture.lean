import IpTunnel.Notice

namespace IpTunnel.Capture

def snapshotLength : Nat := 2048
def queueLimit : Nat := 100

-- Magic number, version 2.4, no time zone, no accuracy, snapshot length, raw IP packets.
def fileHeader : Bytes :=
  Bytes.be32 0xA1B23C4D ++ Bytes.be16 2 ++ Bytes.be16 4 ++ Bytes.be32 0 ++ Bytes.be32 0 ++
    Bytes.be32 (UInt32.ofNat snapshotLength) ++ Bytes.be16 0 ++ Bytes.be16 101

-- The wall clock, which may stand before 1970.
structure Clock where
  seconds : Int
  nanoseconds : UInt32

def record (seconds : Nat) (nanoseconds : UInt32) (packet : Bytes) : Bytes :=
  Bytes.be32 (UInt32.ofNat seconds) ++ Bytes.be32 nanoseconds ++
    Bytes.be32 (UInt32.ofNat (min packet.length snapshotLength)) ++ Bytes.be32 (UInt32.ofNat packet.length) ++
    packet.take snapshotLength

-- Senders put records into a queue of limited length; a writer moves them to the file, one at a time.
structure Recorder where
  file : Bytes
  queue : List Bytes

structure Sender where
  lossReported : Bool

def Sender.fresh : Sender := ⟨false⟩

-- A write to the file that fails, perhaps after some octets.
structure Fault where
  written : Nat
  cause : IoError

structure Writing where
  recorder : Recorder
  notices : List Notice

namespace Recorder

def start : Recorder := ⟨fileHeader, []⟩

-- The writer takes the next record. One that it cannot write is gone, and it goes on with the others.
def writeNext (fault : Option Fault) (recorder : Recorder) : Writing :=
  match recorder.queue, fault with
  | [], _ => ⟨recorder, []⟩
  | record :: rest, none => ⟨⟨recorder.file ++ record, rest⟩, []⟩
  | record :: rest, some fault =>
    ⟨⟨recorder.file ++ record.take fault.written, rest⟩, [.captureWriteFailed fault.cause]⟩

def write (recorder : Recorder) : List (Option Fault) → Writing
  | [] => ⟨recorder, []⟩
  | fault :: rest =>
    let first := recorder.writeNext fault
    let others := first.recorder.write rest
    ⟨others.recorder, first.notices ++ others.notices⟩

def drain (recorder : Recorder) : Recorder := ⟨recorder.file ++ recorder.queue.flatten, []⟩

end Recorder

structure Sending where
  recorder : Recorder
  sender : Sender
  notices : List Notice

def Sender.send (sender : Sender) (clock : Clock) (packet : Bytes) (recorder : Recorder) : Sending :=
  if packet = [] then ⟨recorder, sender, []⟩
  else if clock.seconds < 0 then ⟨recorder, sender, [.clockBeforeEpoch]⟩
  else if recorder.queue.length < queueLimit then
    ⟨⟨recorder.file, recorder.queue ++ [record clock.seconds.toNat clock.nanoseconds packet]⟩, sender, []⟩
  else ⟨recorder, ⟨true⟩, if sender.lossReported then [] else [.captureFull]⟩

-- What comes before a packet that a forwarder hands over: the writes since the one before it, however
-- they fall into the time in between, and then the time of day that is read for it.
structure Turn where
  writes : List (Option Fault)
  clock : Clock

structure Recording where
  recorder : Recorder
  sender : Sender
  turns : Nat → Turn
  handed : Nat

namespace Recording

def start (turns : Nat → Turn) : Recording := ⟨.start, .fresh, turns, 0⟩

def turn (recording : Recording) : Turn := recording.turns recording.handed

def handOver (packet : Bytes) (recording : Recording) : Recording × List Notice :=
  let writing := recording.recorder.write recording.turn.writes
  let sending := recording.sender.send recording.turn.clock packet writing.recorder
  ({ recording with recorder := sending.recorder, sender := sending.sender, handed := recording.handed + 1 },
    writing.notices ++ sending.notices)

def settle (recording : Recording) : Recording := { recording with recorder := recording.recorder.drain }

end Recording

-- A capture with any number of senders: each packet is sent by one of them, and the writer takes its
-- steps in between.
inductive Action where
  | send (sender : Nat) (clock : Clock) (packet : Bytes)
  | writeNext (fault : Option Fault)

structure Session where
  recorder : Recorder
  senders : List Sender
  notices : List Notice

namespace Session

def start (senders : Nat) : Session := ⟨.start, List.replicate senders .fresh, []⟩

def act (session : Session) : Action → Session
  | .writeNext fault =>
    let writing := session.recorder.writeNext fault
    { session with recorder := writing.recorder, notices := session.notices ++ writing.notices }
  | .send index clock packet =>
    match session.senders[index]? with
    | none => session
    | some sender =>
      let sending := sender.send clock packet session.recorder
      ⟨sending.recorder, session.senders.set index sending.sender, session.notices ++ sending.notices⟩

def run (session : Session) (actions : List Action) : Session := actions.foldl act session

-- With no sender left, the writer takes what is still in the queue, and flushes the file.
def finish (flushing : Except IoError Unit) (session : Session) : Session :=
  let written := session.run (List.replicate session.recorder.queue.length (.writeNext none))
  let notices := match flushing with
    | .ok () => []
    | .error cause => [.captureFlushFailed cause]
  ⟨written.recorder, [], written.notices ++ notices⟩

end Session

end IpTunnel.Capture
