import IpTunnel.Proofs.Passes

namespace IpTunnel

def Incoming.fitting? (room : Nat) : Incoming → Option Bytes
  | .data octets => if octets.length ≤ room then some octets else none
  | _ => none

def Report.readable? (room : Nat) (report : Report) : Option (ExtendedError × Bytes) := (report.reading room).toOption

def datagramIn : Option (Except IoError Delivery) → Option Bytes
  | some (.ok (.datagram data)) => some data
  | _ => none

def reportIn : Option (Except IoError Delivery) → Option (ExtendedError × Bytes)
  | some (.ok (.report error fragment)) => some (error, fragment)
  | _ => none

theorem readable?_blank (room : Nat) {entries : List Report} (blank : ∀ entry ∈ entries, entry = .failure errno) :
    entries.filterMap (Report.readable? room) = [] := by
  rw [List.filterMap_eq_nil_iff]
  intro entry member
  rw [blank entry member]
  rfl

theorem fitting?_idle (room : Nat) {items : List Incoming}
    (idle : ∀ item ∈ items, item = .again ∨ item = .failure errno) : items.filterMap (Incoming.fitting? room) = [] := by
  rw [List.filterMap_eq_nil_iff]
  intro item member
  rcases idle item member with rfl | rfl <;> rfl

theorem readable?_take_one (room : Nat) (reports : List Report) :
    (reports.take 1).filterMap (Report.readable? room) = (ErrorQueue.reading room reports).toOption.toList := by
  cases reports with
  | nil => rfl
  | cons entry rest =>
    simp only [List.take_succ_cons, List.take_zero, ErrorQueue.reading, List.filterMap_cons, List.filterMap_nil,
      Report.readable?]
    cases (entry.reading room).toOption <;> rfl

namespace Descriptor

-- The system says that there is nothing only when that is so or an edge follows, and a mark or an edge
-- to come stands for all that it still has.
structure Owed (descriptor : Descriptor) : Prop where
  incoming : .failure wouldBlock ∉ descriptor.incoming
  reports : .failure wouldBlock ∉ descriptor.reports
  reads : descriptor.readable = true ∨ descriptor.edge = true ∨ descriptor.incoming = []
  errors : descriptor.failing = true ∨ descriptor.edge = true ∨ descriptor.reports = []

theorem owed_opened {incoming : List Incoming} {reports : List Report} (outgoing : List Outgoing)
    (reads : .failure wouldBlock ∉ incoming) (errors : .failure wouldBlock ∉ reports) :
    (opened incoming outgoing reports).Owed :=
  ⟨reads, errors, .inr (.inl rfl), .inr (.inl rfl)⟩

-- Neither taking a result nor taking an entry uses up what stands for the others.
theorem Owed.behind {descriptor : Descriptor} (owed : descriptor.Owed) (readable : descriptor.readable = true)
    (queue : descriptor.incoming = item :: rest) : { descriptor with incoming := rest }.Owed where
  incoming := by
    intro member
    apply owed.incoming
    rw [queue]
    exact List.mem_cons_of_mem item member
  reports := owed.reports
  reads := .inl readable
  errors := owed.errors

theorem Owed.reported {descriptor : Descriptor} (owed : descriptor.Owed) :
    { descriptor with reports := descriptor.reports.tail }.Owed where
  incoming := owed.incoming
  reports := by
    intro member
    apply owed.reports
    exact List.mem_of_mem_tail member
  reads := owed.reads
  errors := owed.errors.imp_right (.imp_right (congrArg List.tail))

structure Spares (before after : Descriptor) : Prop where
  incoming : after.incoming = before.incoming
  reports : after.reports = before.reports
  readable : after.readable = before.readable
  failing : after.failing = before.failing
  edge : before.edge = true → after.edge = true

namespace Spares

theorem refl (descriptor : Descriptor) : Spares descriptor descriptor := ⟨rfl, rfl, rfl, rfl, id⟩

theorem trans (first : Spares before middle) (second : Spares middle after) : Spares before after where
  incoming := second.incoming.trans first.incoming
  reports := second.reports.trans first.reports
  readable := second.readable.trans first.readable
  failing := second.failing.trans first.failing
  edge := second.edge ∘ first.edge

theorem owed (spares : Spares before after) (owed : before.Owed) : after.Owed where
  incoming := spares.incoming ▸ owed.incoming
  reports := spares.reports ▸ owed.reports
  reads := by
    rw [spares.readable, spares.incoming]
    exact owed.reads.imp_right (.imp_left spares.edge)
  errors := by
    rw [spares.failing, spares.reports]
    exact owed.errors.imp_right (.imp_left spares.edge)

end Spares

theorem give_spares (call : Option Int → Call) (descriptor : Descriptor) :
    Spares descriptor (descriptor.give call).1 := by
  obtain ⟨incoming, outgoing, reports, readable, writable, failing, writeClosed, edge, drained, calls⟩ := descriptor
  cases outgoing with
  | nil => exact ⟨rfl, rfl, rfl, rfl, id⟩
  | cons result rest =>
    cases result with
    | done => exact ⟨rfl, rfl, rfl, rfl, id⟩
    | again => exact ⟨rfl, rfl, rfl, rfl, fun _ => rfl⟩
    | failure errno =>
      simp only [give]
      split <;> exact ⟨rfl, rfl, rfl, rfl, id⟩

theorem wake_incoming (descriptor : Descriptor) : descriptor.wake.incoming = descriptor.incoming := by
  unfold wake
  split <;> rfl

theorem wake_reports (descriptor : Descriptor) : descriptor.wake.reports = descriptor.reports := by
  unfold wake
  split <;> rfl

-- An edge is exchanged for the marks that it stands for.
theorem wake_owed {descriptor : Descriptor} (owed : descriptor.Owed) : descriptor.wake.Owed := by
  unfold wake
  split
  · refine ⟨owed.incoming, owed.reports, .inl rfl, ?_⟩
    cases queue : descriptor.reports with
    | nil => exact .inr (.inr rfl)
    | cons entry rest => exact .inl (Bool.or_true _)
  · exact owed

end Descriptor

namespace UdpSocket

open Descriptor (wouldBlock Blocks Owed Spares)

theorem sendWithin_spares (endpoint : Endpoint) (packet : Bytes) (peer : Endpoint) (fuel retries : Nat)
    (descriptor : Descriptor) :
    Spares descriptor (sendWithin endpoint packet peer fuel retries descriptor).descriptor := by
  induction fuel generalizing retries descriptor with
  | zero => exact .refl descriptor
  | succ fuel ih =>
    unfold sendWithin
    split
    · have spares := descriptor.give_spares (.sendTo packet peer)
      generalize descriptor.give (.sendTo packet peer) = given at spares
      obtain ⟨after, outcome⟩ := given
      cases outcome with
      | done => exact spares
      | blocked => exact spares.trans (ih retries after)
      | failed errno =>
        cases retries with
        | zero => exact spares
        | succ retries =>
          simp only
          split
          · exact spares.trans (ih retries after)
          · exact spares
    · exact .refl descriptor

-- A receive that failed, and what the error queue had for it behind entries that stand for nothing.
structure Refused (room : Nat) (before : Descriptor) (items : List Incoming) (entries : List Report) (errno : Int)
    (found : Except IoError (ExtendedError × Bytes)) : Prop where
  other : errno ≠ wouldBlock
  last : ∃ skipped, items = skipped ++ [.failure errno] ∧
    ∀ number, .failure number ∈ skipped → number = wouldBlock
  queue : ∃ blanks queue, before.reports = blanks ++ queue ∧ entries = blanks ++ queue.take 1 ∧
    (∀ entry ∈ blanks, entry = .failure wouldBlock) ∧ ErrorQueue.reading room queue = found

-- How a receive ends. Only the last of these has a failed receive among what it used up.
inductive Ends (room : Nat) (before : Descriptor) : List Incoming → List Report → Descriptor →
    Option (Except IoError Delivery) → Prop where
  | asleep (silent : ∀ errno, .failure errno ∈ items → errno = wouldBlock) (readable : after.readable = false)
      (failing : after.failing = false) : Ends room before items entries after none
  | datagram (silent : ∀ errno, .failure errno ∈ items → errno = wouldBlock) (failing : after.failing = false) :
      Ends room before items entries after (some (.ok (.datagram data)))
  | flagged (failing : before.failing = true) (queue : before.reports = entry :: after.reports)
      (loud : entry.reading room ≠ .error .tryAgain) :
      Ends room before [] [entry] after (some ((entry.reading room).map .reported))
  | refused (refused : Refused room before items entries errno found) :
      Ends room before items entries after (some (exchanged errno found))

namespace Ends

-- The number for nothing now does not get through: neither from the error queue nor from a receive.
theorem patient (ends : Ends room before items entries after result) : result ≠ some (.error .tryAgain) := by
  intro again
  cases ends with
  | asleep | datagram => cases again
  | @flagged entry _ _ _ loud =>
    cases reading : entry.reading room with
    | ok found => rw [reading] at again; cases again
    | error cause =>
      rw [reading] at again loud
      cases again
      exact loud rfl
  | @refused _ _ errno found _ refused =>
    cases found with
    | ok found => cases again
    | error cause =>
      cases again
      exact refused.other rfl

theorem failure {cause : IoError} (ends : Ends room before items entries after (some (.error cause))) :
    (before.failing = true ∧ items = [] ∧ ∃ entry, entries = [entry] ∧ entry.reading room = .error cause) ∨
      ∃ errno other, cause = .system errno ∧ Refused room before items entries errno (.error other) := by
  generalize same : some (Except.error cause) = result at ends
  cases ends with
  | asleep | datagram => cases same
  | @flagged entry _ failing _ _ =>
    refine .inl ⟨failing, rfl, entry, rfl, ?_⟩
    cases reading : entry.reading room with
    | ok found => rw [reading] at same; cases same
    | error other =>
      rw [reading] at same
      cases same
      rfl
  | @refused _ _ errno found _ refused =>
    cases found with
    | ok found => cases same
    | error other =>
      cases same
      exact .inr ⟨errno, other, rfl, refused⟩

theorem calm_of_datagram (ends : Ends room before items entries after (some (.ok (.datagram data)))) :
    after.failing = false := by
  generalize same : some (Except.ok (Delivery.datagram data)) = result at ends
  cases ends with
  | asleep => cases same
  | datagram _ failing => exact failing
  | @flagged entry => cases reading : entry.reading room <;> rw [reading] at same <;> cases same
  | @refused _ _ _ found => cases found <;> cases same

theorem refused_of_failed (ends : Ends room before items entries after result) (failed : .failure errno ∈ items)
    (other : errno ≠ wouldBlock) :
    ∃ found, Refused room before items entries errno found ∧ result = some (exchanged errno found) := by
  cases ends with
  | asleep silent | datagram silent => exact absurd (silent errno failed) other
  | flagged => cases failed
  | @refused _ _ number found _ refused =>
    obtain ⟨skipped, last, silent⟩ := refused.last
    rw [last] at failed
    rcases List.mem_append.mp failed with earlier | final
    · exact absurd (silent errno earlier) other
    · cases List.mem_singleton.mp final
      exact ⟨found, refused, rfl⟩

theorem marks_of_asleep (ends : Ends room before items entries after none) :
    after.readable = false ∧ after.failing = false := by
  cases ends with
  | asleep _ readable failing => exact ⟨readable, failing⟩

end Ends

namespace Yields

theorem incoming (yields : Yields room before items entries after result) :
    before.incoming = items ++ after.incoming := by
  induction yields with
  | flagged | asleep => rfl
  | settled _ _ _ ih => exact ih
  | @blocked before middle _ _ _ _ _ _ blocks _ ih =>
    rw [List.append_assoc, ← ih, blocks.incoming]
    cases before.incoming <;> rfl
  | oversized _ _ queue _ _ ih => exact queue.trans (congrArg (List.cons _) ih)
  | datagram _ _ queue _ => exact queue
  | failed _ _ queue _ => exact queue

theorem reports (yields : Yields room before items entries after result) :
    before.reports = entries ++ after.reports := by
  induction yields with
  | flagged | failed => exact (List.take_append_drop 1 _).symm.trans (by rw [List.drop_one])
  | settled _ _ _ ih =>
    rw [List.append_assoc, ← ih]
    exact (List.take_append_drop 1 _).symm.trans (by rw [List.drop_one])
  | asleep | datagram => rfl
  | blocked _ _ blocks _ ih => exact blocks.reports.symm.trans ih
  | oversized _ _ _ _ _ ih => exact ih

theorem datagrams (yields : Yields room before items entries after result) :
    (datagramIn result).toList = items.filterMap (Incoming.fitting? room) := by
  induction yields with
  | @flagged before => cases ErrorQueue.reading room before.reports <;> rfl
  | settled _ _ _ ih => exact ih
  | asleep => rfl
  | blocked _ _ blocks _ ih => rw [List.filterMap_append, fitting?_idle room blocks.idle, List.nil_append, ih]
  | oversized _ _ _ long _ ih =>
    rw [ih, List.filterMap_cons_none]
    exact if_neg (Nat.not_le.mpr long)
  | datagram _ _ _ fits => simp only [List.filterMap_cons, Incoming.fitting?, if_pos fits, List.filterMap_nil]; rfl
  | @failed _ _ before => cases ErrorQueue.reading room before.reports <;> rfl

theorem errors (yields : Yields room before items entries after result) :
    (reportIn result).toList = entries.filterMap (Report.readable? room) := by
  induction yields with
  | @flagged before =>
    rw [readable?_take_one]
    cases ErrorQueue.reading room before.reports <;> rfl
  | settled _ quiet _ ih =>
    rw [List.filterMap_append, readable?_blank room (ErrorQueue.blank_of_tryAgain quiet), List.nil_append, ih]
  | asleep | datagram => rfl
  | blocked _ _ _ _ ih | oversized _ _ _ _ _ ih => exact ih
  | @failed _ _ before =>
    rw [readable?_take_one]
    cases ErrorQueue.reading room before.reports <;> rfl

theorem ends_behind (blanks : List Report) (more : List Incoming) {before middle : Descriptor}
    (ends : Ends room middle items entries after result)
    (calm : middle.failing = false) (queue : before.reports = blanks ++ middle.reports)
    (blank : ∀ entry ∈ blanks, entry = .failure wouldBlock)
    (silent : ∀ errno, .failure errno ∈ more → errno = wouldBlock) :
    Ends room before (more ++ items) (blanks ++ entries) after result := by
  have together {others : List Incoming} (quiet : ∀ errno, .failure errno ∈ others → errno = wouldBlock) (errno : Int)
      (member : .failure errno ∈ more ++ others) : errno = wouldBlock :=
    (List.mem_append.mp member).elim (silent errno) (quiet errno)
  cases ends with
  | asleep quiet readable failing => exact .asleep (together quiet) readable failing
  | datagram quiet failing => exact .datagram (together quiet) failing
  | flagged failing => rw [calm] at failing; cases failing
  | refused refused =>
    obtain ⟨skipped, last, quiet⟩ := refused.last
    obtain ⟨others, rest, split, used, empty, found⟩ := refused.queue
    refine .refused ⟨refused.other, ⟨more ++ skipped, ?_, together quiet⟩, blanks ++ others, rest, ?_, ?_, ?_, found⟩
    · rw [last, List.append_assoc]
    · rw [queue, split, List.append_assoc]
    · rw [used, List.append_assoc]
    · intro entry member
      exact (List.mem_append.mp member).elim (blank entry) (empty entry)

theorem ends (yields : Yields room before items entries after result) : Ends room before items entries after result := by
  induction yields with
  | @flagged before failing loud =>
    obtain ⟨entry, rest, queue⟩ := ErrorQueue.head_of_loud loud
    rw [queue] at loud ⊢
    exact .flagged failing queue loud
  | @settled before _ _ _ _ _ quiet _ ih =>
    exact ends_behind (before.reports.take 1) [] ih rfl (by rw [← List.drop_one, List.take_append_drop])
      (ErrorQueue.blank_of_tryAgain quiet) nofun
  | asleep failing readable => exact .asleep nofun readable failing
  | blocked failing _ blocks _ ih =>
    refine ends_behind [] _ ih (blocks.failing.trans failing) blocks.reports.symm nofun ?_
    intro errno member
    rcases blocks.idle _ member with again | blocked
    · cases again
    · exact Incoming.failure.inj blocked
  | oversized failing _ _ _ _ ih => exact ends_behind [] [_] ih failing rfl nofun (by simp)
  | datagram failing => exact .datagram (by simp) failing
  | @failed _ _ before _ _ _ other =>
    exact .refused ⟨other, ⟨[], rfl, nofun⟩, [], before.reports, rfl, rfl, nofun, rfl⟩

-- With the mark of failing set, a datagram has to wait until the error queue has nothing.
theorem quiet_of_datagram (yields : Yields room before items entries after (some (.ok (.datagram data))))
    (failing : before.failing = true) : ErrorQueue.reading room before.reports = .error .tryAgain := by
  generalize same : some (Except.ok (Delivery.datagram data)) = result at yields
  cases yields with
  | flagged => cases reading : ErrorQueue.reading room before.reports <;> rw [reading] at same <;> cases same
  | settled _ quiet => exact quiet
  | asleep calm | blocked calm | oversized calm | datagram calm | failed calm => rw [calm] at failing; cases failing

theorem owed (yields : Yields room before items entries after result) (owed : before.Owed) : after.Owed := by
  induction yields with
  | flagged => exact owed.reported
  | @settled before _ _ _ _ _ quiet _ ih =>
    have nothing : before.reports = [] := ErrorQueue.empty_of_tryAgain quiet owed.reports
    have rest := owed.reported
    apply ih
    exact ⟨rest.incoming, rest.reports, rest.reads, .inr (.inr (congrArg List.tail nothing))⟩
  | asleep => exact owed
  | @blocked before middle _ _ _ _ _ _ blocks _ ih =>
    apply ih
    refine ⟨?_, blocks.reports ▸ owed.reports, ?_, ?_⟩
    · intro member
      apply owed.incoming
      rw [blocks.incoming] at member
      exact List.mem_of_mem_tail member
    · rcases blocks.follows with nothing | head | edge
      · exact .inr (.inr nothing)
      · exact absurd (List.mem_of_head? head) owed.incoming
      · exact .inr (.inl edge)
    · rw [blocks.failing, blocks.reports]
      exact owed.errors.imp_right (.imp_left blocks.edge)
  | oversized _ readable queue _ _ ih => exact ih (owed.behind readable queue)
  | datagram _ readable queue _ => exact owed.behind readable queue
  | failed _ readable queue _ => exact (owed.behind readable queue).reported

end Yields

end UdpSocket

end IpTunnel
