import IpTunnel.Kernel.Host
import IpTunnel.Proofs.Pulls

namespace IpTunnel

namespace Received

def length : Received → Nat
  | .datagram length => length
  | .report _ length => length

def delivery (buffer : Bytes) : Received → Delivery
  | .datagram length => .datagram (buffer.take length)
  | .report error length => .report error (buffer.take length)

theorem received_delivery {buffer : Bytes} {received : Received} (inside : received.length ≤ buffer.length) :
    (received.delivery buffer).received = received := by
  cases received with
  | datagram length => exact congrArg Received.datagram (List.length_take_of_le inside)
  | report error length => exact congrArg (Received.report error) (List.length_take_of_le inside)

theorem data_delivery (buffer : Bytes) (received : Received) :
    (received.delivery buffer).data = buffer.take received.length := by
  cases received <;> rfl

end Received

-- Two buffers of `room` octets that have the first `length` of them in common.
structure Alike (room length : Nat) (first second : Bytes) : Prop where
  left : first.length = room
  right : second.length = room
  inside : length ≤ room
  front : first.take length = second.take length

namespace Alike

theorem refused (sizes : Alike room length first second) : Alike room 0 first second :=
  ⟨sizes.left, sizes.right, Nat.zero_le _, by rw [List.take_zero, List.take_zero]⟩

theorem fill {first second : Bytes} (alike : Alike room length first second) (data : Bytes) :
    Alike room (min data.length room) (first.fill 0 data) (second.fill 0 data) where
  left := (Bytes.length_fill data (Nat.zero_le _)).trans alike.left
  right := (Bytes.length_fill data (Nat.zero_le _)).trans alike.right
  inside := Nat.min_le_right _ _
  front := by
    have filled {buffer : Bytes} (size : buffer.length = room) :
        (buffer.fill 0 data).take (min data.length room) = data.take room := by
      rw [← size]
      exact Bytes.take_fill
    exact (filled alike.left).trans (filled alike.right).symm

end Alike

namespace UdpSocket

inductive ReadingsAgree (room : Nat) : ErrorQueue.Reading → ErrorQueue.Reading → Prop where
  | failed (alike : Alike room 0 first second) :
      ReadingsAgree room ⟨reports, first, .error cause⟩ ⟨reports, second, .error cause⟩
  | read (alike : Alike room length first second) :
      ReadingsAgree room ⟨reports, first, .ok (error, length)⟩ ⟨reports, second, .ok (error, length)⟩

theorem read_agree {first second : Bytes} (alike : Alike room 0 first second) (reports : List Report) :
    ReadingsAgree room (ErrorQueue.read first reports) (ErrorQueue.read second reports) := by
  cases reports with
  | nil => exact .failed alike
  | cons report rest =>
    cases report with
    | failure errno => exact .failed alike
    | message fragment control =>
      have filled := alike.fill fragment
      simp only [ErrorQueue.read, alike.left, alike.right]
      cases ErrorQueue.extendedError control with
      | error cause => exact .failed filled.refused
      | ok error => exact .read filled

inductive PassesAgree (room : Nat) : Passed → Passed → Prop where
  | failed (alike : Alike room 0 first second) : PassesAgree room
      ⟨after, first, notices, .returned (.error cause), calls⟩ ⟨after, second, notices, .returned (.error cause), calls⟩
  | received (alike : Alike room (Received.length received) first second) : PassesAgree room
      ⟨after, first, notices, .returned (.ok received), calls⟩ ⟨after, second, notices, .returned (.ok received), calls⟩
  | asleep (alike : Alike room 0 first second) :
      PassesAgree room ⟨after, first, notices, .asleep, calls⟩ ⟨after, second, notices, .asleep, calls⟩
  | again (alike : Alike room 0 first second) :
      PassesAgree room ⟨after, first, notices, .again, calls⟩ ⟨after, second, notices, .again, calls⟩

theorem PassesAgree.calling {first second : Passed} (agree : PassesAgree room first second) (call : SystemCall) :
    PassesAgree room { first with calls := call :: first.calls } { second with calls := call :: second.calls } := by
  cases agree with
  | failed alike => exact .failed alike
  | received alike => exact .received alike
  | asleep alike => exact .asleep alike
  | again alike => exact .again alike

theorem takeDatagram_agree {first second : Bytes} (alike : Alike room 0 first second) (descriptor : Descriptor) :
    PassesAgree room (takeDatagram first descriptor) (takeDatagram second descriptor) := by
  unfold takeDatagram
  obtain ⟨after, taken⟩ := descriptor.take
  cases taken with
  | blocked => exact .again alike
  | data data =>
    have filled := alike.fill data
    simp only [alike.left, alike.right]
    by_cases long : room < data.length
    · simp only [long, if_true]
      exact .again filled.refused
    · rw [Nat.min_eq_left (Nat.not_lt.mp long)] at filled
      simp only [long, if_false]
      exact .received filled
  | failed errno =>
    have readings := read_agree alike after.reports
    simp only
    generalize ErrorQueue.read first after.reports = left at readings
    generalize ErrorQueue.read second after.reports = right at readings
    cases readings with
    | failed alike => exact .failed alike
    | read alike => exact .received alike

theorem pass_agree {first second : Bytes} (alike : Alike room 0 first second) (descriptor : Descriptor) :
    PassesAgree room (pass first descriptor) (pass second descriptor) := by
  unfold pass
  by_cases failing : descriptor.failing = true
  · have readings := read_agree alike descriptor.reports
    simp only [failing, if_true]
    generalize ErrorQueue.read first descriptor.reports = left at readings
    generalize ErrorQueue.read second descriptor.reports = right at readings
    cases readings with
    | read alike => exact .received alike
    | failed alike =>
      simp only
      split
      · split
        · exact (takeDatagram_agree alike _).calling _
        · exact .again alike
      · exact .failed alike
  · rw [if_neg failing, if_neg failing]
    split
    · exact takeDatagram_agree alike descriptor
    · exact .asleep alike

structure ReceivesAgree (room : Nat) (first second : Receiving) : Prop where
  descriptor : first.descriptor = second.descriptor
  notices : first.notices = second.notices
  outcome : first.outcome = second.outcome
  alike : Alike room 0 first.buffer second.buffer
  front : ∀ received, first.outcome = some (.ok received) → Alike room received.length first.buffer second.buffer

theorem receiveWithin_agree {first second : Bytes} (fuel : Nat) (alike : Alike room 0 first second)
    (descriptor : Descriptor) :
    ReceivesAgree room (receiveWithin fuel first descriptor) (receiveWithin fuel second descriptor) := by
  induction fuel generalizing first second descriptor with
  | zero => exact ⟨rfl, rfl, rfl, alike, fun received none => by cases none⟩
  | succ fuel ih =>
    unfold receiveWithin
    have agree := pass_agree alike descriptor
    generalize pass first descriptor = left at agree
    generalize pass second descriptor = right at agree
    cases agree with
    | failed alike => exact ⟨rfl, rfl, rfl, alike, fun received none => by cases none⟩
    | received alike =>
      refine ⟨rfl, rfl, rfl, alike.refused, ?_⟩
      intro other same
      cases same
      exact alike
    | asleep alike => exact ⟨rfl, rfl, rfl, alike, fun received none => by cases none⟩
    | @again first second after notices calls alike =>
      have rest := ih alike after
      exact ⟨rest.descriptor, congrArg (notices ++ ·) rest.notices, rest.outcome, rest.alike, rest.front⟩

end UdpSocket

namespace Kernel

def pullTunnel (kernel : Kernel) : Kernel × Option (Except IoError Bytes) :=
  match kernel.tunnel with
  | none => (kernel, none)
  | some device =>
    if device.descriptor.readable then
      let kernel := { kernel with tunnel := some { device with descriptor := device.descriptor.take.1 } }
      match device.descriptor.take.2 with
      | .blocked => (kernel, none)
      | .failed errno => (kernel, some (.error (.system errno)))
      | .data data => (kernel, some (.ok (data.take bufferLength)))
    else (kernel, none)

-- A receive into an empty buffer, which is as good as any.
def pullSocket (family : Family) (kernel : Kernel) : Kernel × Option (Except IoError Delivery) :=
  let polled := kernel.receive family (List.replicate roomLength 0)
  (polled.host, polled.outcome.map (·.map (Received.delivery polled.buffer)))

theorem readTunnel_pulls {buffer : Bytes} (kernel : Kernel) (sized : buffer.length = bufferLength) :
    Reads List.length id buffer (kernel.readTunnel buffer) kernel.pullTunnel := by
  unfold readTunnel pullTunnel
  cases found : kernel.tunnel with
  | none => exact ⟨rfl, rfl, rfl, by simp⟩
  | some device =>
    simp only [TunDevice.read]
    by_cases readable : device.descriptor.readable = true
    · simp only [readable, if_true]
      obtain ⟨after, taken⟩ := device.descriptor.take
      cases taken with
      | blocked => exact ⟨rfl, rfl, rfl, by simp⟩
      | failed errno => exact ⟨rfl, rfl, rfl, by simp⟩
      | data data =>
        have size : (data.take bufferLength).length = min data.length buffer.length := by
          rw [List.length_take, sized, Nat.min_comm]
        refine ⟨rfl, Bytes.length_fill data (Nat.zero_le _), ?_, ?_⟩
        · simp only [Option.map_some, Except.map, size]
        · intro item pulled
          simp only [Option.some.injEq, Except.ok.injEq] at pulled
          rw [← pulled, id, size, ← sized]
          exact Bytes.take_fill
    · have same : { kernel with tunnel := some device } = kernel := by rw [← found]
      rw [if_neg readable, if_neg readable]
      exact ⟨same, rfl, rfl, by simp⟩

theorem receive_pulls {buffer : Bytes} (family : Family) (kernel : Kernel) (sized : buffer.length = roomLength) :
    Reads Delivery.received Delivery.data buffer (kernel.receive family buffer) (kernel.pullSocket family) := by
  unfold pullSocket receive
  cases kernel.socket family with
  | none => exact ⟨rfl, rfl, rfl, by simp⟩
  | some socket =>
    have zeros : Alike roomLength 0 buffer (List.replicate roomLength 0) :=
      ⟨sized, List.length_replicate, Nat.zero_le _, by rw [List.take_zero, List.take_zero]⟩
    have agree : UdpSocket.ReceivesAgree roomLength (UdpSocket.receive buffer socket.descriptor)
        (UdpSocket.receive (List.replicate roomLength 0) socket.descriptor) :=
      UdpSocket.receiveWithin_agree _ zeros socket.descriptor
    simp only
    generalize UdpSocket.receive buffer socket.descriptor = actual at agree
    generalize UdpSocket.receive (List.replicate roomLength 0) socket.descriptor = model at agree
    refine ⟨?_, ?_, ?_, ?_⟩
    · simp only [agree.descriptor, agree.notices]
    · exact agree.alike.left.trans sized.symm
    · simp only [agree.outcome]
      cases outcome : model.outcome with
      | none => rfl
      | some result =>
        cases result with
        | error cause => rfl
        | ok received =>
          have alike := agree.front received (agree.outcome.trans outcome)
          simp only [Option.map_some, Except.map, Received.received_delivery (alike.right.symm ▸ alike.inside)]
    · intro item pulled
      cases outcome : model.outcome with
      | none => simp [outcome] at pulled
      | some result =>
        cases result with
        | error cause => simp [outcome, Except.map] at pulled
        | ok received =>
          have alike := agree.front received (agree.outcome.trans outcome)
          simp only [outcome, Option.map_some, Except.map, Option.some.injEq, Except.ok.injEq] at pulled
          rw [← pulled, Received.data_delivery, List.length_take, Nat.min_eq_left (alike.right.symm ▸ alike.inside)]
          exact alike.front

instance : Pulls Kernel where
  pullTunnel := pullTunnel
  pullSocket := pullSocket
  readTunnel := readTunnel_pulls
  receive := receive_pulls

end Kernel

end IpTunnel
