import IpTunnel.Proofs.Arrivals
import IpTunnel.Proofs.Passes

namespace IpTunnel

-- What the system has for a reader: an entry of the error queue, or octets.
inductive Arrival where
  | report (entry : Report)
  | data (octets : Bytes)

-- What an arrival comes to for a socket's buffer with this much room; octets that do not fit come to nothing.
def Arrival.delivery? (room : Nat) : Arrival → Option Delivery
  | .report entry => (entry.reading room).toOption.map .reported
  | .data octets => if octets.length ≤ room then some (.datagram octets) else none

def Report.Decodable : Report → Prop
  | .message _ control => ∃ error, ErrorQueue.extendedError control = .ok error
  | .failure _ => False

theorem Report.reading_of_decodable {entry : Report} (room : Nat) (decodable : entry.Decodable) :
    ∃ found, entry.reading room = .ok found := by
  cases entry with
  | failure errno => exact decodable.elim
  | message fragment control =>
    obtain ⟨error, decoded⟩ := decodable
    exact ⟨(error, fragment.take room), by rw [reading, decoded]; rfl⟩

def Call.isDone : Call → Bool
  | .write _ errno => errno.isNone
  | .sendTo _ _ errno => errno.isNone
  | _ => false

-- Results that let this many writes through; what would come after them does not count.
def Affords : Nat → List Outgoing → Prop
  | 0, _ => True
  | _ + 1, [] => True
  | budget + 1, .done :: rest => Affords budget rest
  | budget + 1, .again :: rest => Affords (budget + 1) rest
  | _ + 1, .failure _ :: _ => False

theorem affords_nil (budget : Nat) : Affords budget [] := by
  cases budget <;> trivial

namespace Descriptor

def arrivals (descriptor : Descriptor) : List Arrival :=
  descriptor.reports.map .report ++ descriptor.datagrams.map .data

def done (descriptor : Descriptor) : List Call := descriptor.calls.filter Call.isDone

-- Everything that is left can be read, and as much can be written as the budget says: now, or once the next edge
-- is noticed. Octets are not read before it is known whether the error queue has entries.
structure Steady (budget : Nat) (descriptor : Descriptor) : Prop where
  incoming : ∀ errno, Incoming.failure errno ∉ descriptor.incoming
  outgoing : Affords budget descriptor.outgoing
  reports : ∀ entry ∈ descriptor.reports, entry.Decodable
  reads : descriptor.readable = true ∨ descriptor.edge = true ∨ descriptor.incoming = []
  writes : descriptor.writable = true ∨ descriptor.edge = true
  flags : descriptor.failing = true ∨ descriptor.reports = [] ∨ (descriptor.edge = true ∧ descriptor.readable = false)

structure Advances (before : Descriptor) (budget : Nat) (after : Descriptor) (taken : List Arrival)
    (made : List Call) : Prop where
  steady : after.Steady budget
  load : after.load + taken.length ≤ before.load
  arrivals : before.arrivals = taken ++ after.arrivals
  done : after.done = before.done ++ made

theorem steady_opened {incoming : List Incoming} {outgoing : List Outgoing} {reports : List Report}
    (reads : ∀ errno, Incoming.failure errno ∉ incoming) (writes : Affords budget outgoing)
    (decodable : ∀ entry ∈ reports, entry.Decodable) : (opened incoming outgoing reports).Steady budget :=
  ⟨reads, writes, decodable, .inr (.inl rfl), .inr rfl, .inr (.inr ⟨rfl, rfl⟩)⟩

namespace Advances

theorem refl (steady : before.Steady budget) : Advances before budget before [] [] :=
  ⟨steady, Nat.le_refl _, rfl, (List.append_nil _).symm⟩

theorem trans (first : Advances before budget middle taken made) (second : Advances middle rest after others later) :
    Advances before rest after (taken ++ others) (made ++ later) where
  steady := second.steady
  load := by
    have one := first.load
    have two := second.load
    rw [List.length_append]
    omega
  arrivals := by rw [first.arrivals, second.arrivals, List.append_assoc]
  done := by rw [second.done, first.done, List.append_assoc]

end Advances

structure Dry (descriptor : Descriptor) : Prop where
  readable : descriptor.readable = false
  failing : descriptor.failing = false

theorem Steady.unreported {descriptor : Descriptor} (steady : descriptor.Steady budget)
    (failing : descriptor.failing = false) (readable : descriptor.readable = true) : descriptor.reports = [] := by
  rcases steady.flags with flagged | none | ⟨_, unread⟩
  · rw [failing] at flagged
    cases flagged
  · exact none
  · rw [readable] at unread
    cases unread

theorem Steady.exhausted {descriptor : Descriptor} (steady : descriptor.Steady budget)
    (readable : descriptor.readable = false) (settled : descriptor.failing = false ∨ descriptor.reports = [])
    (edge : descriptor.edge = false) : descriptor.arrivals = [] := by
  have incoming : descriptor.incoming = [] := by
    rcases steady.reads with marked | edged | none
    · rw [readable] at marked
      cases marked
    · rw [edge] at edged
      cases edged
    · exact none
  have reports : descriptor.reports = [] := by
    rcases steady.flags with flagged | none | ⟨edged, _⟩
    · rcases settled with calm | none
      · rw [calm] at flagged
        cases flagged
      · exact none
    · exact none
    · rw [edge] at edged
      cases edged
  rw [arrivals, datagrams, incoming, reports]
  rfl

theorem wake_advances {descriptor : Descriptor} (steady : descriptor.Steady budget) :
    Advances descriptor budget descriptor.wake [] [] := by
  unfold wake
  by_cases edge : descriptor.edge = true
  · rw [if_pos edge]
    refine ⟨⟨steady.incoming, steady.outgoing, steady.reports, .inl rfl, .inl rfl, ?_⟩, ?_, rfl,
      (List.append_nil _).symm⟩
    · cases found : descriptor.reports with
      | nil => exact .inr (.inl rfl)
      | cons entry rest => exact .inl (by simp)
    · simp [load, work]
  · rw [if_neg edge]
    exact .refl steady

-- A read either takes the next octets, or finds that there are none before the next edge.
theorem take_advances {descriptor : Descriptor} (steady : descriptor.Steady budget)
    (readable : descriptor.readable = true) (unreported : descriptor.reports = []) :
    (∃ after data, descriptor.take = (after, .data data) ∧ Advances descriptor budget after [.data data] [] ∧
        after.reports = [] ∧ after.failing = descriptor.failing ∧
        UdpSocket.passes after < UdpSocket.passes descriptor) ∨
      ∃ after, descriptor.take = (after, .blocked) ∧ Advances descriptor budget after [] [] ∧
        after.readable = false ∧ after.reports = [] ∧ after.failing = descriptor.failing ∧
        UdpSocket.passes after < UdpSocket.passes descriptor := by
  obtain ⟨incoming, outgoing, reports, _, writable, failing, writeClosed, edge, drained, calls⟩ := descriptor
  obtain ⟨arrives, affords, decodable, reads, writes, flags⟩ := steady
  obtain rfl : _ = true := readable
  obtain rfl : reports = [] := unreported
  cases incoming with
  | nil =>
    refine .inr ⟨_, rfl, ⟨⟨arrives, affords, decodable, .inr (.inr rfl), writes, .inr (.inl rfl)⟩, ?_, rfl, ?_⟩,
      rfl, rfl, rfl, ?_⟩
    · exact Nat.le_refl _
    · exact (List.append_nil _).symm
    · simp [UdpSocket.passes]
  | cons item rest =>
    have others (errno : Int) : Incoming.failure errno ∉ rest := by
      intro member
      exact arrives errno (List.mem_cons_of_mem _ member)
    cases item with
    | data data =>
      refine .inl ⟨_, data, rfl, ⟨⟨others, affords, decodable, .inl rfl, writes, .inr (.inl rfl)⟩, ?_, rfl, ?_⟩,
        rfl, rfl, ?_⟩
      · simp only [load, work, List.length_cons, List.length_nil]
        omega
      · exact (List.append_nil _).symm
      · simp only [UdpSocket.passes, List.length_cons]
        omega
    | failure errno => exact absurd (List.mem_cons_self ..) (arrives errno)
    | again =>
      refine .inr ⟨_, rfl, ⟨⟨others, affords, decodable, .inr (.inl rfl), .inr rfl, .inr (.inl rfl)⟩, ?_, rfl, ?_⟩,
        rfl, rfl, rfl, ?_⟩
      · simp only [load, work, List.length_cons, List.length_nil, Bool.toNat_true]
        omega
      · exact (List.append_nil _).symm
      · simp only [UdpSocket.passes, List.length_cons, Bool.toNat_true, Bool.toNat_false]
        omega

-- A write that is paid for gets through, or has to wait for an edge.
theorem give_advances {descriptor : Descriptor} (call : Option Int → Call) (through : (call none).isDone = true)
    (refused : ∀ errno, (call (some errno)).isDone = false) (steady : descriptor.Steady (budget + 1)) :
    (∃ after, descriptor.give call = (after, .done) ∧ Advances descriptor budget after [] [call none]) ∨
      ∃ after, descriptor.give call = (after, .blocked) ∧ Advances descriptor (budget + 1) after [] [] ∧
        after.edge = true ∧ after.outgoing.length < descriptor.outgoing.length := by
  obtain ⟨incoming, outgoing, reports, readable, writable, failing, writeClosed, edge, drained, calls⟩ := descriptor
  obtain ⟨arrives, affords, decodable, reads, writes, flags⟩ := steady
  have grown : (calls ++ [call none]).filter Call.isDone = calls.filter Call.isDone ++ [call none] := by
    rw [List.filter_append, List.filter_cons_of_pos through]
    rfl
  cases outgoing with
  | nil =>
    exact .inl ⟨_, rfl, ⟨⟨arrives, affords_nil budget, decodable, reads, writes, flags⟩, Nat.le_refl _, rfl, grown⟩⟩
  | cons result rest =>
    cases result with
    | done =>
      refine .inl ⟨_, rfl, ⟨⟨arrives, affords, decodable, reads, writes, flags⟩, ?_, rfl, grown⟩⟩
      simp only [load, work, List.length_cons, List.length_nil]
      omega
    | failure errno => exact affords.elim
    | again =>
      have marked : failing = true ∨ reports = [] ∨ (true = true ∧ readable = false) :=
        flags.imp_right (.imp_right fun both => ⟨rfl, both.2⟩)
      refine .inr ⟨_, rfl, ⟨⟨arrives, affords, decodable, reads.imp_right fun _ => .inl rfl, .inr rfl, marked⟩,
        ?_, rfl, ?_⟩, rfl, Nat.lt_succ_self _⟩
      · simp only [load, work, List.length_cons, List.length_nil, Bool.toNat_true]
        omega
      · change (calls ++ [call (some wouldBlock)]).filter Call.isDone = _
        rw [List.filter_append, List.filter_cons_of_neg (by simp [refused])]
        rfl

end Descriptor

namespace UdpSocket

open Descriptor (Steady Advances)

-- A receive drops what does not fit and then has a delivery, or none before the next edge.
structure Draws (room budget : Nat) (before : Descriptor) (after : Receiving) (taken : List Arrival)
    (found : Option Delivery) : Prop where
  advances : Advances before budget after.descriptor taken []
  outcome : after.outcome = found.map fun delivery => .ok delivery.received
  front : ∀ delivery, found = some delivery →
    delivery.data.length ≤ room ∧ after.buffer.take delivery.data.length = delivery.data
  told : taken.filterMap (Arrival.delivery? room) = found.toList
  dry : found = none → after.descriptor.Dry

theorem Draws.after {before middle : Descriptor} {rest : Receiving} (notices : List Notice)
    (first : Advances before budget middle dropped []) (silent : dropped.filterMap (Arrival.delivery? room) = [])
    (draws : Draws room budget middle rest taken found) :
    Draws room budget before { rest with notices := notices } (dropped ++ taken) found where
  advances := first.trans draws.advances
  outcome := draws.outcome
  front := draws.front
  told := by rw [List.filterMap_append, silent, draws.told, List.nil_append]
  dry := draws.dry

theorem settle_advances {descriptor : Descriptor} (steady : descriptor.Steady budget)
    (unreported : descriptor.reports = []) :
    Advances descriptor budget { descriptor with failing := false } [] [] :=
  ⟨⟨steady.incoming, steady.outgoing, steady.reports, steady.reads, steady.writes, .inr (.inl unreported)⟩,
    Nat.le_refl _, rfl, (List.append_nil _).symm⟩

theorem report_advances {descriptor : Descriptor} {entry : Report} {rest : List Report}
    (steady : descriptor.Steady budget) (failing : descriptor.failing = true)
    (queue : descriptor.reports = entry :: rest) :
    Advances descriptor budget { descriptor with reports := rest } [.report entry] [] := by
  have decodable (other : Report) (member : other ∈ rest) : other.Decodable := by
    apply steady.reports
    rw [queue]
    exact List.mem_cons_of_mem _ member
  refine ⟨⟨steady.incoming, steady.outgoing, decodable, steady.reads, steady.writes, .inl failing⟩, ?_, ?_,
    (List.append_nil _).symm⟩
  · simp only [Descriptor.load, Descriptor.work, queue, List.length_cons, List.length_nil]
    omega
  · simp only [Descriptor.arrivals, queue]
    rfl

section Resumed

variable {fuel budget : Nat} (later : ∀ (buffer : Bytes) (descriptor : Descriptor), descriptor.Steady budget →
  passes descriptor < fuel →
  ∃ taken found, Draws buffer.length budget descriptor (receiveWithin fuel buffer descriptor) taken found)

include later

theorem takeDatagram_draws {descriptor : Descriptor} (buffer : Bytes) (steady : descriptor.Steady budget)
    (readable : descriptor.readable = true) (unreported : descriptor.reports = [])
    (enough : passes descriptor ≤ fuel) : ∃ taken found,
      Draws buffer.length budget descriptor ((takeDatagram buffer descriptor).resume fuel) taken found := by
  unfold takeDatagram
  obtain ⟨after, data, taken, advances, _, _, fewer⟩ | ⟨after, taken, advances, _, _, _, fewer⟩ :=
    Descriptor.take_advances steady readable unreported
  · rw [taken]
    by_cases long : buffer.length < data.length
    · have silent : [Arrival.data data].filterMap (Arrival.delivery? buffer.length) = [] := by
        simp [Arrival.delivery?, long]
      obtain ⟨taken, found, draws⟩ := later (buffer.fill 0 data) after advances.steady (by omega)
      rw [Bytes.length_fill data (Nat.zero_le _)] at draws
      simp only [long, if_true]
      exact ⟨_, found, draws.after _ advances silent⟩
    · have fits : data.length ≤ buffer.length := Nat.not_lt.mp long
      have front : (buffer.fill 0 data).take (min data.length buffer.length) = data.take buffer.length :=
        Bytes.take_fill
      rw [Nat.min_eq_left fits, List.take_of_length_le fits] at front
      simp only [long, if_false]
      refine ⟨[.data data], some (.datagram data), advances, rfl, ?_, ?_, ?_⟩
      · intro delivery same
        cases same
        exact ⟨fits, front⟩
      · simp [Arrival.delivery?, fits]
      · intro missing
        cases missing
  · obtain ⟨taken', found, draws⟩ := later buffer after advances.steady (by omega)
    rw [taken]
    exact ⟨_, found, draws.after _ advances rfl⟩

theorem pass_draws {descriptor : Descriptor} (buffer : Bytes) (steady : descriptor.Steady budget)
    (enough : passes descriptor ≤ fuel) :
    ∃ taken found, Draws buffer.length budget descriptor ((pass buffer descriptor).resume fuel) taken found := by
  unfold pass
  by_cases failing : descriptor.failing = true
  · rw [if_pos failing]
    cases queue : descriptor.reports with
    | nil =>
      have settles := settle_advances steady queue
      have fewer := passes_lt_of_settled failing
      rw [queue, List.tail_nil] at fewer
      have same : { descriptor with reports := [], failing := false } = { descriptor with failing := false } := by
        rw [← queue]
      rw [same] at fewer
      simp only [ErrorQueue.read, if_true, same]
      split
      · rename_i readable
        obtain ⟨taken, found, draws⟩ := takeDatagram_draws later buffer settles.steady readable queue (by omega)
        exact ⟨_, found, draws.after _ settles rfl⟩
      · obtain ⟨taken, found, draws⟩ := later buffer _ settles.steady (by omega)
        exact ⟨_, found, draws.after _ settles rfl⟩
    | cons entry rest =>
      have reports := report_advances steady failing queue
      have decodable : entry.Decodable := by
        apply steady.reports
        rw [queue]
        exact List.mem_cons_self ..
      obtain ⟨found, read⟩ := Report.reading_of_decodable buffer.length decodable
      have gives := ErrorQueue.read_gives buffer (entry :: rest)
      have outcome := gives.outcome
      rw [ErrorQueue.reading, read] at outcome
      simp only [outcome, gives.rest, Except.map]
      refine ⟨[.report entry], some (.reported found), reports, rfl, ?_, ?_, ?_⟩
      · intro delivery same
        cases same
        exact gives.front found read
      · simp [Arrival.delivery?, read, Except.toOption]
      · intro missing
        cases missing
  · rw [if_neg failing]
    have calm : descriptor.failing = false := Bool.eq_false_iff.mpr failing
    split
    · rename_i readable
      exact takeDatagram_draws later buffer steady readable (steady.unreported calm readable) enough
    · rename_i readable
      refine ⟨[], none, .refl steady, rfl, ?_, rfl, fun _ => ⟨Bool.eq_false_iff.mpr readable, calm⟩⟩
      intro delivery missing
      cases missing

end Resumed

theorem receive_draws {descriptor : Descriptor} (buffer : Bytes) (steady : descriptor.Steady budget) :
    ∃ taken found, Draws buffer.length budget descriptor (receive buffer descriptor) taken found := by
  have within (fuel : Nat) (buffer : Bytes) (descriptor : Descriptor) (steady : descriptor.Steady budget)
      (enough : passes descriptor < fuel) :
      ∃ taken found, Draws buffer.length budget descriptor (receiveWithin fuel buffer descriptor) taken found := by
    induction fuel generalizing buffer descriptor with
    | zero => exact absurd enough (Nat.not_lt_zero _)
    | succ fuel ih => exact pass_draws ih buffer steady (Nat.le_of_lt_succ enough)
  exact within _ buffer descriptor steady (Nat.lt_succ_self _)

-- A send gets the datagram out, once, or has to wait for an edge that is sure to come.
inductive Posts (packet : Bytes) (peer : Endpoint) (budget : Nat) (before : Descriptor) : Sending → Prop where
  | out (advances : Advances before budget after [] [.sendTo packet peer none]) :
      Posts packet peer budget before ⟨after, [], retries, some (.ok ())⟩
  | waiting (advances : Advances before (budget + 1) after [] []) (edge : after.edge = true) :
      Posts packet peer budget before ⟨after, [], retries, none⟩

theorem sendWithin_posts {descriptor : Descriptor} (fuel : Nat) (endpoint : Endpoint) (packet : Bytes)
    (peer : Endpoint) (retries : Nat) (steady : descriptor.Steady (budget + 1))
    (enough : descriptor.outgoing.length < fuel) :
    Posts packet peer budget descriptor (sendWithin endpoint packet peer fuel retries descriptor) := by
  induction fuel generalizing descriptor with
  | zero => exact absurd enough (Nat.not_lt_zero _)
  | succ fuel ih =>
    unfold sendWithin
    by_cases ready : descriptor.mayWrite = true
    · rw [if_pos ready]
      obtain ⟨after, given, advances⟩ | ⟨after, given, advances, _, fewer⟩ :=
        Descriptor.give_advances (.sendTo packet peer) rfl (fun _ => rfl) steady
      · rw [given]
        exact .out advances
      · rw [given]
        have rest := ih advances.steady (by omega)
        simp only
        generalize sendWithin endpoint packet peer fuel retries after = sending at rest
        cases rest with
        | out posted => exact .out (advances.trans posted)
        | waiting waits edge => exact .waiting (advances.trans waits) edge
    · rw [if_neg ready]
      have stalled : descriptor.writable = false := by
        rw [Descriptor.mayWrite, Bool.or_eq_true] at ready
        exact Bool.eq_false_iff.mpr fun writable => ready (.inl writable)
      rcases steady.writes with writable | edge
      · rw [stalled] at writable
        cases writable
      · exact .waiting (.refl steady) edge

theorem send_posts {descriptor : Descriptor} (endpoint : Endpoint) (packet : Bytes) (peer : Endpoint) (retries : Nat)
    (steady : descriptor.Steady (budget + 1)) :
    Posts packet peer budget descriptor (send endpoint packet peer retries descriptor) :=
  sendWithin_posts _ endpoint packet peer retries steady (Nat.lt_succ_self _)

end UdpSocket
end IpTunnel
