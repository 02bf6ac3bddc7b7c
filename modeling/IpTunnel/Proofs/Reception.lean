import IpTunnel.Proofs.Accounts

namespace IpTunnel.UdpSocket

open Descriptor (wouldBlock)

-- What happens to a socket: a receive, a send, or a wait that notices the edges. A receive that has to
-- wait keeps nothing of its own, so the next one takes it up.
inductive Turn where
  | receive (buffer : Bytes)
  | send (endpoint : Endpoint) (packet : Bytes) (peer : Endpoint) (retries : Nat)
  | wake

def turn (descriptor : Descriptor) : Turn → Descriptor
  | .receive buffer => (receive buffer descriptor).descriptor
  | .send endpoint packet peer retries => (send endpoint packet peer retries descriptor).descriptor
  | .wake => descriptor.wake

structure Reception where
  buffer : Bytes
  before : Descriptor

def receptions : List Turn → Descriptor → List Reception
  | [], _ => []
  | .receive buffer :: rest, descriptor => ⟨buffer, descriptor⟩ :: receptions rest (turn descriptor (.receive buffer))
  | next :: rest, descriptor => receptions rest (turn descriptor next)

def usedUp (before after : List α) : List α := before.take (before.length - after.length)

theorem usedUp_append (used after : List α) : usedUp (used ++ after) after = used := by
  rw [usedUp, List.length_append, Nat.add_sub_cancel_right]
  exact List.take_left

namespace Reception

def receiving (call : Reception) : Receiving := receive call.buffer call.before

def after (call : Reception) : Descriptor := call.receiving.descriptor

def room (call : Reception) : Nat := call.buffer.length

-- What the caller gets, with the octets that the buffer has for it; none while the receive waits.
def result (call : Reception) : Option (Except IoError Delivery) :=
  call.receiving.outcome.map (·.map (Received.delivery call.receiving.buffer))

def items (call : Reception) : List Incoming := usedUp call.before.incoming call.after.incoming

def entries (call : Reception) : List Report := usedUp call.before.reports call.after.reports

theorem result_eq {call : Reception} {told : Option (Except IoError Delivery)}
    (tells : call.receiving.Tells call.room told) : call.result = told := by
  rw [Reception.result, tells.outcome]
  cases told with
  | none => rfl
  | some outcome =>
    cases outcome with
    | error cause => rfl
    | ok delivery =>
      obtain ⟨_, front⟩ := tells.front delivery rfl
      cases delivery with
      | datagram data => exact congrArg (fun octets => some (Except.ok (Delivery.datagram octets))) front
      | report error fragment => exact congrArg (fun octets => some (Except.ok (Delivery.report error octets))) front

theorem explained (call : Reception) :
    Yields call.room call.before call.items call.entries call.after call.result ∧
      call.receiving.Tells call.room call.result := by
  obtain ⟨items, entries, result, yields, tells⟩ := receive_explained call.buffer call.before
  have same : call.result = result := result_eq tells
  have read : call.items = items := by
    rw [Reception.items, yields.incoming]
    exact usedUp_append items _
  have reported : call.entries = entries := by
    rw [Reception.entries, yields.reports]
    exact usedUp_append entries _
  rw [same, read, reported]
  exact ⟨yields, tells⟩

theorem yields (call : Reception) : Yields call.room call.before call.items call.entries call.after call.result :=
  call.explained.1

-- What one receive promises, whatever the system answers.
structure Lawful (call : Reception) : Prop where
  incoming : call.before.incoming = call.items ++ call.after.incoming
  reports : call.before.reports = call.entries ++ call.after.reports
  -- The lengths that it returns are those of what the buffer then has in front.
  outcome : call.receiving.outcome = call.result.map (·.map Delivery.received)
  datagram : (datagramIn call.result).toList = call.items.filterMap (Incoming.fitting? call.room)
  report : (reportIn call.result).toList = call.entries.filterMap (Report.readable? call.room)
  patient : call.result ≠ some (.error .tryAgain)
  -- No datagram passes the error queue by.
  ordered : ∀ data, call.result = some (.ok (.datagram data)) → call.after.failing = false ∧
    (call.before.failing = true →
      call.before.reports = [] ∨ call.before.reports.head? = some (.failure wouldBlock))
  -- A failure is that of the error queue, read because of the mark, or that of a receive for which the
  -- error queue has nothing better.
  failure : ∀ cause, call.result = some (.error cause) →
    (call.before.failing = true ∧ call.items = [] ∧
      ∃ entry, call.entries = [entry] ∧ entry.reading call.room = .error cause) ∨
    ∃ errno other, cause = .system errno ∧ Refused call.room call.before call.items call.entries errno (.error other)
  -- And every failed receive comes to such a failure or to the report that explains it.
  refused : ∀ errno, .failure errno ∈ call.items → errno ≠ wouldBlock → ∃ found,
    Refused call.room call.before call.items call.entries errno found ∧ call.result = some (exchanged errno found)
  -- It waits only when neither mark is left.
  asleep : call.result = none → call.after.readable = false ∧ call.after.failing = false

theorem lawful (call : Reception) : call.Lawful where
  incoming := call.yields.incoming
  reports := call.yields.reports
  outcome := call.explained.2.outcome
  datagram := call.yields.datagrams
  report := call.yields.errors
  patient := call.yields.ends.patient
  ordered := by
    intro data same
    have yields := call.yields
    rw [same] at yields
    exact ⟨yields.ends.calm_of_datagram, fun failing => ErrorQueue.head_of_tryAgain (yields.quiet_of_datagram failing)⟩
  failure := by
    intro cause same
    exact (same ▸ call.yields.ends).failure
  refused := fun errno failed other => call.yields.ends.refused_of_failed failed other
  asleep := by
    intro same
    exact (same ▸ call.yields.ends).marks_of_asleep

theorem complete (call : Reception) (owed : call.before.Owed) (waits : call.result = none)
    (still : call.after.edge = false) : call.after.incoming = [] ∧ call.after.reports = [] := by
  obtain ⟨readable, failing⟩ := call.lawful.asleep waits
  have after : call.after.Owed := call.yields.owed owed
  have noEdge : call.after.edge ≠ true := Bool.eq_false_iff.mp still
  constructor
  · exact (after.reads.resolve_left (Bool.eq_false_iff.mp readable)).resolve_left noEdge
  · exact (after.errors.resolve_left (Bool.eq_false_iff.mp failing)).resolve_left noEdge

end Reception

structure Faithful (start : Descriptor) (calls : List Reception) (final : Descriptor) : Prop where
  each : ∀ call ∈ calls, call.Lawful
  -- Everything is used up in the order in which it came, by one receive each.
  incoming : start.incoming = calls.flatMap (·.items) ++ final.incoming
  reports : start.reports = calls.flatMap (·.entries) ++ final.reports
  -- Exactly the datagrams that fit, and exactly the reports that can be decoded, are handed on.
  datagrams : calls.filterMap (datagramIn ·.result) =
    calls.flatMap fun call => call.items.filterMap (Incoming.fitting? call.room)
  errors : calls.filterMap (reportIn ·.result) =
    calls.flatMap fun call => call.entries.filterMap (Report.readable? call.room)
  -- No edge is lost: a receive that waits with none to come has left nothing behind.
  complete : start.Owed → ∀ call ∈ calls, call.result = none → call.after.edge = false →
    call.after.incoming = [] ∧ call.after.reports = []

namespace Faithful

theorem next (call : Reception) (faithful : Faithful call.after calls final) :
    Faithful call.before (call :: calls) final where
  each := List.forall_mem_cons.mpr ⟨call.lawful, faithful.each⟩
  incoming := by
    rw [List.flatMap_cons, List.append_assoc, ← faithful.incoming]
    exact call.lawful.incoming
  reports := by
    rw [List.flatMap_cons, List.append_assoc, ← faithful.reports]
    exact call.lawful.reports
  datagrams := by
    rw [List.flatMap_cons, ← call.lawful.datagram, ← faithful.datagrams, List.filterMap_cons]
    cases datagramIn call.result <;> rfl
  errors := by
    rw [List.flatMap_cons, ← call.lawful.report, ← faithful.errors, List.filterMap_cons]
    cases reportIn call.result <;> rfl
  complete := by
    intro owed
    exact List.forall_mem_cons.mpr ⟨call.complete owed, faithful.complete (call.yields.owed owed)⟩

theorem past (incoming : middle.incoming = start.incoming) (reports : middle.reports = start.reports)
    (owed : start.Owed → middle.Owed) (faithful : Faithful middle calls final) : Faithful start calls final where
  each := faithful.each
  incoming := incoming ▸ faithful.incoming
  reports := reports ▸ faithful.reports
  datagrams := faithful.datagrams
  errors := faithful.errors
  complete := faithful.complete ∘ owed

end Faithful

theorem receives_faithful (turns : List Turn) (start : Descriptor) :
    Faithful start (receptions turns start) (turns.foldl turn start) := by
  induction turns generalizing start with
  | nil => exact ⟨nofun, rfl, rfl, rfl, rfl, fun _ => nofun⟩
  | cons next rest ih =>
    have faithful := ih (turn start next)
    cases next with
    | receive buffer => exact faithful.next ⟨buffer, start⟩
    | send endpoint packet peer retries =>
      have spares := sendWithin_spares endpoint packet peer (attemptsLeft start) retries start
      exact faithful.past spares.incoming spares.reports spares.owed
    | wake => exact faithful.past start.wake_incoming start.wake_reports Descriptor.wake_owed

-- A socket with an edge between two datagrams, of which only the second fits.
def twoDatagrams : Descriptor := .opened [.data [1, 2, 3], .again, .data [4]] [] [.failure 111]

def untilDrained : List Turn :=
  [.wake, .receive [0, 0], .receive [0, 0], .wake, .receive [0, 0], .receive [0, 0]]

theorem receives_faithful_twoDatagrams :
    Faithful twoDatagrams (receptions untilDrained twoDatagrams) (untilDrained.foldl turn twoDatagrams) ∧
      twoDatagrams.Owed ∧
      (receptions untilDrained twoDatagrams).map (·.result) =
        [some (.error (.system 111)), none, some (.ok (.datagram [4])), none] := by
  refine ⟨receives_faithful untilDrained twoDatagrams, Descriptor.owed_opened [] ?_ ?_, rfl⟩
  · simp [wouldBlock]
  · simp [wouldBlock]

end IpTunnel.UdpSocket
