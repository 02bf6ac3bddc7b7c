import IpTunnel.Kernel.UdpSocket
import IpTunnel.Proofs.Pulls

namespace IpTunnel

def Incoming.datagram? : Incoming → Option Bytes
  | .data octets => some octets
  | _ => none

def Call.written? : Call → Option Bytes
  | .write frame none => some frame
  | _ => none

namespace Descriptor

def datagrams (descriptor : Descriptor) : List Bytes := descriptor.incoming.filterMap Incoming.datagram?

def written (descriptor : Descriptor) : List Bytes := descriptor.calls.filterMap Call.written?

-- What is left for a descriptor to do; a wait uses up an edge, an edge comes with a result at most.
def load (descriptor : Descriptor) : Nat := descriptor.work + descriptor.edge.toNat

-- What is left can be read and written: now, or once the next edge is noticed.
structure Peaceful (descriptor : Descriptor) : Prop where
  incoming : ∀ errno, Incoming.failure errno ∉ descriptor.incoming
  outgoing : ∀ errno, Outgoing.failure errno ∉ descriptor.outgoing
  reports : descriptor.reports = []
  failing : descriptor.failing = false
  reads : descriptor.readable = true ∨ descriptor.edge = true ∨ descriptor.incoming = []
  writes : descriptor.writable = true ∨ descriptor.edge = true

structure Serves (before after : Descriptor) (taken frames : List Bytes) : Prop where
  peaceful : after.Peaceful
  load : after.load + taken.length ≤ before.load
  datagrams : before.datagrams = taken ++ after.datagrams
  written : after.written = before.written ++ frames

theorem peaceful_opened {incoming : List Incoming} {outgoing : List Outgoing}
    (reads : ∀ errno, Incoming.failure errno ∉ incoming) (writes : ∀ errno, Outgoing.failure errno ∉ outgoing) :
    (opened incoming outgoing []).Peaceful :=
  ⟨reads, writes, rfl, rfl, .inr (.inl rfl), .inr rfl⟩

namespace Serves

theorem refl (peaceful : before.Peaceful) : Serves before before [] [] :=
  ⟨peaceful, Nat.le_refl _, rfl, (List.append_nil _).symm⟩

theorem trans (first : Serves before middle taken frames) (second : Serves middle after others writes) :
    Serves before after (taken ++ others) (frames ++ writes) where
  peaceful := second.peaceful
  load := by
    have one := first.load
    have two := second.load
    rw [List.length_append]
    omega
  datagrams := by rw [first.datagrams, second.datagrams, List.append_assoc]
  written := by rw [second.written, first.written, List.append_assoc]

end Serves

theorem load_wake (descriptor : Descriptor) : descriptor.wake.load + descriptor.edge.toNat = descriptor.load := by
  unfold wake
  cases edge : descriptor.edge <;> simp [load, work, edge]

theorem wake_serves {descriptor : Descriptor} (peaceful : descriptor.Peaceful) :
    Serves descriptor descriptor.wake [] [] := by
  unfold wake
  by_cases edge : descriptor.edge = true
  · have quiet : (descriptor.failing || !descriptor.reports.isEmpty) = false := by
      simp [peaceful.failing, peaceful.reports]
    rw [if_pos edge]
    refine ⟨⟨peaceful.incoming, peaceful.outgoing, peaceful.reports, quiet, .inl rfl, .inl rfl⟩, ?_, rfl,
      (List.append_nil _).symm⟩
    simp [load, work]
  · rw [if_neg edge]
    exact .refl peaceful

-- A read either takes the next datagram, or finds that there is none before the next edge.
theorem take_serves {descriptor : Descriptor} (peaceful : descriptor.Peaceful)
    (readable : descriptor.readable = true) :
    (∃ after data, descriptor.take = (after, .data data) ∧ Serves descriptor after [data] [] ∧
        UdpSocket.passes after < UdpSocket.passes descriptor) ∨
      ∃ after, descriptor.take = (after, .blocked) ∧ Serves descriptor after [] [] ∧ after.readable = false ∧
        UdpSocket.passes after < UdpSocket.passes descriptor := by
  obtain ⟨incoming, outgoing, reports, _, writable, failing, writeClosed, edge, drained, calls⟩ := descriptor
  obtain ⟨arrivals, results, unreported, unfailing, reads, writes⟩ := peaceful
  obtain rfl : _ = true := readable
  cases incoming with
  | nil =>
    refine .inr ⟨_, rfl, ⟨⟨arrivals, results, unreported, unfailing, .inr (.inr rfl), writes⟩, ?_, rfl, ?_⟩, rfl, ?_⟩
    · exact Nat.le_refl _
    · exact (List.append_nil _).symm
    · simp [UdpSocket.passes]
  | cons item rest =>
    have others (errno : Int) : Incoming.failure errno ∉ rest := fun member =>
      arrivals errno (List.mem_cons_of_mem _ member)
    cases item with
    | data data =>
      refine .inl ⟨_, data, rfl, ⟨⟨others, results, unreported, unfailing, .inl rfl, writes⟩, ?_, rfl, ?_⟩, ?_⟩
      · simp only [load, work, List.length_cons, List.length_nil]
        omega
      · exact (List.append_nil _).symm
      · simp only [UdpSocket.passes, List.length_cons]
        omega
    | failure errno => exact absurd (List.mem_cons_self ..) (arrivals errno)
    | again =>
      refine .inr ⟨_, rfl, ⟨⟨others, results, unreported, unfailing, .inr (.inl rfl), .inr rfl⟩, ?_, rfl, ?_⟩, rfl, ?_⟩
      · simp only [load, work, List.length_cons, List.length_nil, Bool.toNat_true]
        omega
      · exact (List.append_nil _).symm
      · simp only [UdpSocket.passes, List.length_cons, Bool.toNat_true, Bool.toNat_false]
        omega

theorem give_serves {descriptor : Descriptor} (peaceful : descriptor.Peaceful) (frame : Bytes) :
    (∃ after, descriptor.give (.write frame) = (after, .done) ∧ Serves descriptor after [] [frame]) ∨
      ∃ after, descriptor.give (.write frame) = (after, .blocked) ∧ Serves descriptor after [] [] ∧
        after.edge = true := by
  obtain ⟨incoming, outgoing, reports, readable, writable, failing, writeClosed, edge, drained, calls⟩ := descriptor
  obtain ⟨arrivals, results, unreported, unfailing, reads, writes⟩ := peaceful
  cases outgoing with
  | nil =>
    refine .inl ⟨_, rfl, ⟨⟨arrivals, results, unreported, unfailing, reads, writes⟩, Nat.le_refl _, rfl, ?_⟩⟩
    exact List.filterMap_append
  | cons result rest =>
    have others (errno : Int) : Outgoing.failure errno ∉ rest := fun member =>
      results errno (List.mem_cons_of_mem _ member)
    cases result with
    | done =>
      refine .inl ⟨_, rfl, ⟨⟨arrivals, others, unreported, unfailing, reads, writes⟩, ?_, rfl, ?_⟩⟩
      · simp only [load, work, List.length_cons, List.length_nil]
        omega
      · exact List.filterMap_append
    | failure errno => exact absurd (List.mem_cons_self ..) (results errno)
    | again =>
      refine .inr ⟨_, rfl, ⟨⟨arrivals, others, unreported, unfailing, .inr (.inl rfl), .inr rfl⟩, ?_, rfl, ?_⟩, rfl⟩
      · simp only [load, work, List.length_cons, List.length_nil, Bool.toNat_true]
        omega
      · exact List.filterMap_append

end Descriptor

namespace UdpSocket

open Descriptor (Serves)

-- A receive drops what does not fit and then has a datagram, or none before the next edge.
structure Receives (room : Nat) (before : Descriptor) (after : Receiving) (dropped : List Bytes)
    (found : Option Bytes) : Prop where
  serves : Serves before after.descriptor (dropped ++ found.toList) []
  outcome : after.outcome = found.map fun data => .ok (.datagram data.length)
  front : ∀ data, found = some data → data.length ≤ room ∧ after.buffer.take data.length = data
  exhausted : found = none → after.descriptor.readable = false
  oversized : ∀ data ∈ dropped, room < data.length

theorem receiveWithin_serves {descriptor : Descriptor} (fuel : Nat) (buffer : Bytes)
    (peaceful : descriptor.Peaceful) (enough : passes descriptor < fuel) :
    ∃ dropped found, Receives buffer.length descriptor (receiveWithin fuel buffer descriptor) dropped found := by
  induction fuel generalizing descriptor buffer with
  | zero => exact absurd enough (Nat.not_lt_zero _)
  | succ fuel ih =>
    unfold receiveWithin
    by_cases readable : descriptor.readable = true
    · have pass : pass buffer descriptor = takeDatagram buffer descriptor := by
        rw [pass, if_neg (by simp [peaceful.failing]), if_pos readable]
      rw [pass, takeDatagram]
      obtain ⟨after, data, taken, serves, fewer⟩ | ⟨after, taken, serves, blocked, fewer⟩ :=
        Descriptor.take_serves peaceful readable
      · rw [taken]
        by_cases long : buffer.length < data.length
        · obtain ⟨dropped, found, receives⟩ := ih (buffer.fill 0 data) serves.peaceful (by omega)
          rw [Bytes.length_fill data (Nat.zero_le _)] at receives
          simp only [long, if_true]
          refine ⟨data :: dropped, found, serves.trans receives.serves, receives.outcome, receives.front,
            receives.exhausted, ?_⟩
          intro other member
          rcases List.mem_cons.mp member with rfl | member
          · exact long
          · exact receives.oversized other member
        · have fits : data.length ≤ buffer.length := Nat.not_lt.mp long
          have front : (buffer.fill 0 data).take (min data.length buffer.length) = data.take buffer.length :=
            Bytes.take_fill
          rw [Nat.min_eq_left fits, List.take_of_length_le fits] at front
          simp only [long, if_false]
          refine ⟨[], some data, serves, rfl, ?_, nofun, nofun⟩
          intro other same
          cases same
          exact ⟨fits, front⟩
      · obtain ⟨dropped, found, receives⟩ := ih buffer serves.peaceful (by omega)
        rw [taken]
        exact ⟨dropped, found, serves.trans receives.serves, receives.outcome, receives.front, receives.exhausted,
          receives.oversized⟩
    · have pass : pass buffer descriptor = ⟨descriptor, buffer, [], .asleep, []⟩ := by
        rw [pass, if_neg (by simp [peaceful.failing]), if_neg readable]
      rw [pass]
      exact ⟨[], none, .refl peaceful, rfl, nofun, fun _ => Bool.eq_false_iff.mpr readable, nofun⟩

end UdpSocket

end IpTunnel
