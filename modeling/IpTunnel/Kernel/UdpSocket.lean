import IpTunnel.Kernel.TunDevice

namespace IpTunnel

structure UdpNode where
  socketFailure : Option Int
  optionFailures : List (Option Int)
  bindFailure : Option Int
  nameFailure : Option Int
  boundTo : Option Endpoint
  incoming : List Incoming
  outgoing : List Outgoing
  reports : List Report

structure UdpSocket where
  endpoint : Endpoint
  descriptor : Descriptor

namespace UdpSocket

structure Attempt where
  call : Call
  failure : Option Int
  notices : IoError → List Notice

def attemptAll : List Attempt → Opening Unit
  | [] => ⟨[], [], .ok ()⟩
  | attempt :: rest =>
    match attempt.failure with
    | some errno => ⟨[attempt.call], attempt.notices (.system errno), .error (.system errno)⟩
    | none =>
      let remaining := attemptAll rest
      { remaining with calls := attempt.call :: remaining.calls }

-- The options of a new socket: reports of errors, and with IPv6 no IPv4 on the same socket.
def options : Family → List Call
  | .v4 => [.setOption 0 11 1]
  | .v6 => [.setOption 41 26 1, .setOption 41 25 1]

def attempts (endpoint : Endpoint) (node : UdpNode) : List Attempt :=
  ⟨.socket endpoint.family, node.socketFailure, fun _ => []⟩ ::
    ((options endpoint.family).zipIdx.map fun (call, index) =>
      ⟨call, (node.optionFailures[index]?).join, fun _ => []⟩) ++
    [⟨.bind endpoint, node.bindFailure, fun cause => [.bindFailed endpoint cause]⟩]

def listen (address : IpAddress) (port : UInt16) (node : UdpNode) : Opening UdpSocket :=
  let endpoint := Endpoint.of address port
  let bound := attemptAll (attempts endpoint node)
  match bound.outcome, node.nameFailure with
  | .error cause, _ => ⟨bound.calls, bound.notices, .error cause⟩
  | .ok (), some errno => ⟨bound.calls, bound.notices, .error (.system errno)⟩
  | .ok (), none =>
    let granted := node.boundTo.getD endpoint
    ⟨bound.calls, bound.notices ++ [.listening granted],
      .ok ⟨granted, .opened node.incoming node.outgoing node.reports⟩⟩

-- How a pass of a receive ends: with a result, asleep until the next edge, or ready for another pass.
inductive Step where
  | returned (outcome : Except IoError Received)
  | asleep
  | again

inductive SystemCall where
  | receive
  | readErrors
deriving DecidableEq

structure Passed where
  descriptor : Descriptor
  buffer : Bytes
  notices : List Notice
  step : Step
  calls : List SystemCall

-- Takes a datagram. One that does not fit is dropped; a failure is exchanged for its report.
def takeDatagram (buffer : Bytes) (descriptor : Descriptor) : Passed :=
  match descriptor.take with
  | (descriptor, .blocked) => ⟨descriptor, buffer, [], .again, [.receive]⟩
  | (descriptor, .data data) =>
    if buffer.length < data.length then
      ⟨descriptor, buffer.fill 0 data, [.oversized data.length buffer.length], .again, [.receive]⟩
    else ⟨descriptor, buffer.fill 0 data, [], .returned (.ok (.datagram data.length)), [.receive]⟩
  | (descriptor, .failed errno) =>
    let reading := ErrorQueue.read buffer descriptor.reports
    let descriptor := { descriptor with reports := reading.reports }
    match reading.outcome with
    | .ok (error, length) =>
      ⟨descriptor, reading.buffer, [.receiveFailed (.system errno) error], .returned (.ok (.report error length)),
        [.receive, .readErrors]⟩
    | .error _ =>
      ⟨descriptor, reading.buffer, [], .returned (.error (.system errno)), [.receive, .readErrors]⟩

-- One pass of a receive. An empty error queue takes the mark of failing away.
def pass (buffer : Bytes) (descriptor : Descriptor) : Passed :=
  if descriptor.failing then
    let reading := ErrorQueue.read buffer descriptor.reports
    let descriptor := { descriptor with reports := reading.reports }
    match reading.outcome with
    | .ok (error, length) =>
      ⟨descriptor, reading.buffer, [], .returned (.ok (.report error length)), [.readErrors]⟩
    | .error cause =>
      if cause = .tryAgain then
        let descriptor := { descriptor with failing := false }
        if descriptor.readable then
          let passed := takeDatagram reading.buffer descriptor
          { passed with calls := .readErrors :: passed.calls }
        else ⟨descriptor, reading.buffer, [], .again, [.readErrors]⟩
      else ⟨descriptor, reading.buffer, [], .returned (.error cause), [.readErrors]⟩
  else if descriptor.readable then takeDatagram buffer descriptor
  else ⟨descriptor, buffer, [], .asleep, []⟩

structure Receiving where
  descriptor : Descriptor
  buffer : Bytes
  notices : List Notice
  outcome : Option (Except IoError Received)

def receiveWithin : Nat → Bytes → Descriptor → Receiving
  | 0, buffer, descriptor => ⟨descriptor, buffer, [], none⟩
  | fuel + 1, buffer, descriptor =>
    let passed := pass buffer descriptor
    match passed.step with
    | .returned outcome => ⟨passed.descriptor, passed.buffer, passed.notices, some outcome⟩
    | .asleep => ⟨passed.descriptor, passed.buffer, passed.notices, none⟩
    | .again =>
      let rest := receiveWithin fuel passed.buffer passed.descriptor
      { rest with notices := passed.notices ++ rest.notices }

-- No less than the number of passes: each uses up a result or takes a mark away.
def passes (descriptor : Descriptor) : Nat :=
  descriptor.incoming.length + descriptor.reports.length + descriptor.readable.toNat + descriptor.failing.toNat

def receive (buffer : Bytes) (descriptor : Descriptor) : Receiving :=
  receiveWithin (passes descriptor + 1) buffer descriptor

-- Numbers with which the system reports, on the next send, what became of an earlier datagram.
def isDelayed (errno : Int) : Bool := [111, 113, 101, 112, 100, 71].contains errno

structure Sending where
  descriptor : Descriptor
  notices : List Notice
  retries : Nat
  outcome : Option (Except IoError Unit)

def sendWithin (endpoint : Endpoint) (packet : Bytes) (peer : Endpoint) : Nat → Nat → Descriptor → Sending
  | 0, retries, descriptor => ⟨descriptor, [], retries, none⟩
  | fuel + 1, retries, descriptor =>
    if descriptor.mayWrite then
      match descriptor.give (.sendTo packet peer) with
      | (descriptor, .done) => ⟨descriptor, [], retries, some (.ok ())⟩
      | (descriptor, .blocked) => sendWithin endpoint packet peer fuel retries descriptor
      | (descriptor, .failed errno) =>
        match retries with
        | 0 => ⟨descriptor, [], 0, some (.error (.system errno))⟩
        | retries + 1 =>
          if isDelayed errno then
            let rest := sendWithin endpoint packet peer fuel retries descriptor
            { rest with notices := .earlierFailure endpoint (.system errno) :: rest.notices }
          else ⟨descriptor, [], retries + 1, some (.error (.system errno))⟩
    else ⟨descriptor, [], retries, none⟩

-- No less than the number of attempts: all but the last use up a result.
def attemptsLeft (descriptor : Descriptor) : Nat := descriptor.outgoing.length + 1

def send (endpoint : Endpoint) (packet : Bytes) (peer : Endpoint) (retries : Nat) (descriptor : Descriptor) :
    Sending :=
  sendWithin endpoint packet peer (attemptsLeft descriptor) retries descriptor

end UdpSocket

end IpTunnel
