import IpTunnel.Proofs.Sockets

namespace IpTunnel

def Report.reading (room : Nat) : Report → Except IoError (ExtendedError × Bytes)
  | .failure errno => .error (.system errno)
  | .message fragment control => (ErrorQueue.extendedError control).map fun error => (error, fragment.take room)

def Delivery.reported : ExtendedError × Bytes → Delivery
  | (error, fragment) => .report error fragment

-- A failed receive as its caller sees it, with what the error queue held then.
def exchanged (errno : Int) : Except IoError (ExtendedError × Bytes) → Except IoError Delivery
  | .ok found => .ok (.reported found)
  | .error _ => .error (.system errno)

namespace ErrorQueue

def reading (room : Nat) : List Report → Except IoError (ExtendedError × Bytes)
  | [] => .error .tryAgain
  | entry :: _ => entry.reading room

structure Reading.Gives (reading : Reading) (buffer : Bytes) (reports : List Report) : Prop where
  rest : reading.reports = reports.tail
  size : reading.buffer.length = buffer.length
  outcome : reading.outcome =
    (ErrorQueue.reading buffer.length reports).map fun found => (found.1, found.2.length)
  front : ∀ found, ErrorQueue.reading buffer.length reports = .ok found →
    found.2.length ≤ buffer.length ∧ reading.buffer.take found.2.length = found.2

theorem read_gives (buffer : Bytes) (reports : List Report) : (read buffer reports).Gives buffer reports := by
  cases reports with
  | nil => exact ⟨rfl, rfl, rfl, nofun⟩
  | cons entry rest =>
    cases entry with
    | failure errno => exact ⟨rfl, rfl, rfl, nofun⟩
    | message fragment control =>
      have size : (fragment.take buffer.length).length = min fragment.length buffer.length := by
        rw [List.length_take, Nat.min_comm]
      refine ⟨rfl, Bytes.length_fill fragment (Nat.zero_le _), ?_, ?_⟩
      · simp only [read, reading, Report.reading]
        cases extendedError control with
        | error cause => rfl
        | ok error => simp only [Except.map, size]
      · intro found read
        simp only [reading, Report.reading] at read
        cases decoded : extendedError control with
        | error cause => simp [decoded, Except.map] at read
        | ok error =>
          simp only [decoded, Except.map, Except.ok.injEq] at read
          rw [← read, size]
          exact ⟨Nat.min_le_right _ _, Bytes.take_fill⟩

-- Only the system's own number says that there is nothing to read.
theorem reading_tryAgain {entry : Report} (again : entry.reading room = .error .tryAgain) :
    entry = .failure Descriptor.wouldBlock := by
  cases entry with
  | failure errno =>
    cases again
    rfl
  | message fragment control =>
    simp only [Report.reading, extendedError] at again
    split at again
    · simp [Except.map, IoError.tryAgain] at again
    · split at again <;> simp [Except.map, IoError.tryAgain] at again

theorem head_of_loud {reports : List Report} (loud : reading room reports ≠ .error .tryAgain) :
    ∃ entry rest, reports = entry :: rest := by
  cases reports with
  | nil => exact absurd rfl loud
  | cons entry rest => exact ⟨entry, rest, rfl⟩

theorem head_of_tryAgain {reports : List Report} (again : reading room reports = .error .tryAgain) :
    reports = [] ∨ reports.head? = some (.failure Descriptor.wouldBlock) := by
  cases reports with
  | nil => exact .inl rfl
  | cons entry rest => exact .inr (congrArg some (reading_tryAgain again))

theorem blank_of_tryAgain {reports : List Report} (again : reading room reports = .error .tryAgain) :
    ∀ entry ∈ reports.take 1, entry = .failure Descriptor.wouldBlock := by
  cases reports with
  | nil => exact nofun
  | cons head rest =>
    intro entry member
    obtain rfl : entry = head := by simpa using member
    exact reading_tryAgain again

-- An honest queue has nothing exactly when it says so.
theorem empty_of_tryAgain {reports : List Report} (again : reading room reports = .error .tryAgain)
    (honest : .failure Descriptor.wouldBlock ∉ reports) : reports = [] :=
  (head_of_tryAgain again).resolve_right fun head => honest (List.mem_of_head? head)

end ErrorQueue

namespace Descriptor

-- A read that has to wait: at most a notice of that is used up, and the mark of readiness is gone.
structure Blocks (before after : Descriptor) : Prop where
  incoming : after.incoming = before.incoming.tail
  idle : ∀ item ∈ before.incoming.take 1, item = .again ∨ item = .failure wouldBlock
  readable : after.readable = false
  reports : after.reports = before.reports
  failing : after.failing = before.failing
  edge : before.edge = true → after.edge = true
  follows : after.incoming = [] ∨ before.incoming.head? = some (.failure wouldBlock) ∨ after.edge = true

theorem take_cases (descriptor : Descriptor) :
    (∃ after, descriptor.take = (after, .blocked) ∧ Blocks descriptor after) ∨
    (∃ data rest, descriptor.incoming = .data data :: rest ∧
      descriptor.take = ({ descriptor with incoming := rest }, .data data)) ∨
    ∃ errno rest, errno ≠ wouldBlock ∧ descriptor.incoming = .failure errno :: rest ∧
      descriptor.take = ({ descriptor with incoming := rest }, .failed errno) := by
  obtain ⟨incoming, outgoing, reports, readable, writable, failing, writeClosed, edge, drained, calls⟩ := descriptor
  cases incoming with
  | nil => exact .inl ⟨_, rfl, rfl, nofun, rfl, rfl, rfl, id, .inl rfl⟩
  | cons item rest =>
    cases item with
    | data data => exact .inr (.inl ⟨data, rest, rfl, rfl⟩)
    | again =>
      refine .inl ⟨_, rfl, rfl, ?_, rfl, rfl, rfl, fun _ => rfl, .inr (.inr rfl)⟩
      intro item member
      exact .inl (by simpa using member)
    | failure errno =>
      by_cases blocked : errno = wouldBlock
      · refine .inl ⟨⟨rest, outgoing, reports, false, writable, failing, writeClosed, edge, drained, calls⟩,
          by simp only [take, if_pos blocked], rfl, ?_, rfl, rfl, rfl, id, .inr (.inl (by rw [blocked]; rfl))⟩
        intro item member
        exact .inr (by simpa [blocked] using member)
      · exact .inr (.inr ⟨errno, rest, blocked, rfl, by simp only [take, if_neg blocked]⟩)

end Descriptor

namespace UdpSocket

open Descriptor (wouldBlock Blocks)

-- What a receive with this much room uses up, and where and with what result it ends.
inductive Yields (room : Nat) : Descriptor → List Incoming → List Report → Descriptor →
    Option (Except IoError Delivery) → Prop where
  -- The mark of failing sends a receive to the error queue first.
  | flagged (failing : before.failing = true) (loud : ErrorQueue.reading room before.reports ≠ .error .tryAgain) :
      Yields room before [] (before.reports.take 1) { before with reports := before.reports.tail }
        (some ((ErrorQueue.reading room before.reports).map .reported))
  -- With nothing in the error queue the mark goes, and the receive goes on.
  | settled (failing : before.failing = true) (quiet : ErrorQueue.reading room before.reports = .error .tryAgain)
      (next : Yields room { before with reports := before.reports.tail, failing := false } items entries after result) :
      Yields room before items (before.reports.take 1 ++ entries) after result
  | asleep (failing : before.failing = false) (readable : before.readable = false) :
      Yields room before [] [] before none
  | blocked (failing : before.failing = false) (readable : before.readable = true) (blocks : Blocks before middle)
      (next : Yields room middle items entries after result) :
      Yields room before (before.incoming.take 1 ++ items) entries after result
  | oversized (failing : before.failing = false) (readable : before.readable = true)
      (queue : before.incoming = .data data :: rest) (long : room < data.length)
      (next : Yields room { before with incoming := rest } items entries after result) :
      Yields room before (.data data :: items) entries after result
  | datagram (failing : before.failing = false) (readable : before.readable = true)
      (queue : before.incoming = .data data :: rest) (fits : data.length ≤ room) :
      Yields room before [.data data] [] { before with incoming := rest } (some (.ok (.datagram data)))
  | failed (failing : before.failing = false) (readable : before.readable = true)
      (queue : before.incoming = .failure errno :: rest) (other : errno ≠ wouldBlock) :
      Yields room before [.failure errno] (before.reports.take 1)
        { before with incoming := rest, reports := before.reports.tail }
        (some (exchanged errno (ErrorQueue.reading room before.reports)))

structure Receiving.Tells (receiving : Receiving) (room : Nat) (result : Option (Except IoError Delivery)) : Prop where
  size : receiving.buffer.length = room
  outcome : receiving.outcome = result.map (·.map Delivery.received)
  front : ∀ delivery, result = some (.ok delivery) → delivery.data.length ≤ room ∧
    receiving.buffer.take delivery.data.length = delivery.data

theorem tells_reported {reading : ErrorQueue.Reading} {buffer : Bytes} {descriptor : Descriptor}
    (gives : reading.Gives buffer reports)
    (found : ErrorQueue.reading buffer.length reports = .ok (error, fragment)) :
    Receiving.Tells ⟨descriptor, reading.buffer, notices, some (.ok (.report error fragment.length))⟩ buffer.length
      (some (.ok (.report error fragment))) := by
  refine ⟨gives.size, rfl, ?_⟩
  intro delivery same
  cases same
  exact gives.front _ found

def Explained (room : Nat) (before : Descriptor) (receiving : Receiving) : Prop :=
  ∃ items entries result, Yields room before items entries receiving.descriptor result ∧ receiving.Tells room result

-- The loop goes on from where a pass has left the socket; what it logs is not looked at.
theorem Explained.again {middle : Descriptor} (explained : Explained room middle rest) (notices : List Notice)
    (pass : ∀ {items entries after result}, Yields room middle items entries after result →
      ∃ more reported, Yields room before more reported after result) :
    Explained room before { rest with notices := notices } := by
  obtain ⟨items, entries, result, yields, tells⟩ := explained
  obtain ⟨more, reported, yields⟩ := pass yields
  exact ⟨more, reported, result, yields, tells.size, tells.outcome, tells.front⟩

def Passed.resume (fuel : Nat) (passed : Passed) : Receiving :=
  match passed.step with
  | .returned outcome => ⟨passed.descriptor, passed.buffer, passed.notices, some outcome⟩
  | .asleep => ⟨passed.descriptor, passed.buffer, passed.notices, none⟩
  | .again =>
    let rest := receiveWithin fuel passed.buffer passed.descriptor
    { rest with notices := passed.notices ++ rest.notices }

-- A wait uses up the mark of readiness, if nothing else.
theorem passes_lt_of_blocks (blocks : Blocks before after) (readable : before.readable = true) :
    passes after < passes before := by
  have fewer : before.incoming.tail.length ≤ before.incoming.length := by simp
  simp only [passes, blocks.incoming, blocks.reports, blocks.readable, blocks.failing, readable, Bool.toNat_false,
    Bool.toNat_true]
  omega

theorem passes_lt_of_settled {descriptor : Descriptor} (failing : descriptor.failing = true) :
    passes { descriptor with reports := descriptor.reports.tail, failing := false } < passes descriptor := by
  have fewer : descriptor.reports.tail.length ≤ descriptor.reports.length := by simp
  simp only [passes, failing, Bool.toNat_true, Bool.toNat_false]
  omega

section Resumed

variable {fuel : Nat} (later : ∀ (buffer : Bytes) (descriptor : Descriptor), passes descriptor < fuel →
  Explained buffer.length descriptor (receiveWithin fuel buffer descriptor))

include later

theorem takeDatagram_explained (buffer : Bytes) (descriptor : Descriptor) (failing : descriptor.failing = false)
    (readable : descriptor.readable = true) (enough : passes descriptor ≤ fuel) :
    Explained buffer.length descriptor ((takeDatagram buffer descriptor).resume fuel) := by
  unfold takeDatagram
  obtain ⟨middle, taken, blocks⟩ | ⟨data, rest, queue, taken⟩ | ⟨errno, rest, other, queue, taken⟩ :=
    descriptor.take_cases
  · have fewer := passes_lt_of_blocks blocks readable
    rw [taken]
    apply (later buffer middle (by omega)).again
    intro items entries after result yields
    exact ⟨_, _, .blocked failing readable blocks yields⟩
  · have size : (buffer.fill 0 data).length = buffer.length := Bytes.length_fill data (Nat.zero_le _)
    rw [taken]
    by_cases long : buffer.length < data.length
    · have fewer : passes { descriptor with incoming := rest } < passes descriptor := by
        simp only [passes, queue, List.length_cons]
        omega
      have rest := later (buffer.fill 0 data) { descriptor with incoming := rest } (by omega)
      rw [size] at rest
      simp only [long, if_true]
      apply rest.again
      intro items entries after result yields
      exact ⟨_, _, .oversized failing readable queue long yields⟩
    · have fits : data.length ≤ buffer.length := Nat.not_lt.mp long
      have front : (buffer.fill 0 data).take (min data.length buffer.length) = data.take buffer.length :=
        Bytes.take_fill
      rw [Nat.min_eq_left fits, List.take_of_length_le fits] at front
      simp only [long, if_false]
      refine ⟨_, _, _, .datagram failing readable queue fits, size, rfl, ?_⟩
      intro delivery same
      cases same
      exact ⟨fits, front⟩
  · have gives := ErrorQueue.read_gives buffer descriptor.reports
    have result : Yields buffer.length descriptor _ _ _ _ := .failed failing readable queue other
    rw [taken]
    simp only [gives.outcome, gives.rest]
    cases found : ErrorQueue.reading buffer.length descriptor.reports with
    | error cause =>
      rw [found] at result
      exact ⟨_, _, _, result, gives.size, rfl, nofun⟩
    | ok read =>
      rw [found] at result
      exact ⟨_, _, _, result, tells_reported gives found⟩

theorem pass_explained (buffer : Bytes) (descriptor : Descriptor) (enough : passes descriptor ≤ fuel) :
    Explained buffer.length descriptor ((pass buffer descriptor).resume fuel) := by
  unfold pass
  by_cases failing : descriptor.failing = true
  · have gives := ErrorQueue.read_gives buffer descriptor.reports
    simp only [if_pos failing, gives.outcome, gives.rest]
    by_cases quiet : ErrorQueue.reading buffer.length descriptor.reports = .error .tryAgain
    · have settle {items entries after result} (yields : Yields buffer.length
          { descriptor with reports := descriptor.reports.tail, failing := false } items entries after result) :
          ∃ more reported, Yields buffer.length descriptor more reported after result :=
        ⟨_, _, .settled failing quiet yields⟩
      have fewer := passes_lt_of_settled failing
      rw [quiet]
      simp only [Except.map, if_true]
      rw [← gives.size] at settle ⊢
      split
      · rename_i readable
        have rest := takeDatagram_explained later (ErrorQueue.read buffer descriptor.reports).buffer
          { descriptor with reports := descriptor.reports.tail, failing := false } rfl readable (by omega)
        exact rest.again _ settle
      · have rest := later (ErrorQueue.read buffer descriptor.reports).buffer
          { descriptor with reports := descriptor.reports.tail, failing := false } (by omega)
        exact rest.again _ settle
    · have result := Yields.flagged failing quiet
      cases found : ErrorQueue.reading buffer.length descriptor.reports with
      | ok read =>
        rw [found] at result
        exact ⟨_, _, _, result, tells_reported gives found⟩
      | error cause =>
        have loud : cause ≠ .tryAgain := fun same => quiet (found.trans (congrArg Except.error same))
        simp only [found, Except.map] at result
        simp only [Except.map, if_neg loud]
        exact ⟨_, _, _, result, gives.size, rfl, nofun⟩
  · rw [if_neg failing]
    have calm : descriptor.failing = false := Bool.eq_false_iff.mpr failing
    split
    · rename_i readable
      exact takeDatagram_explained later buffer descriptor calm readable enough
    · rename_i readable
      exact ⟨_, _, _, .asleep calm (Bool.eq_false_iff.mpr readable), rfl, rfl, nofun⟩

end Resumed

theorem receiveWithin_explained {fuel : Nat} (buffer : Bytes) (descriptor : Descriptor)
    (enough : passes descriptor < fuel) :
    Explained buffer.length descriptor (receiveWithin fuel buffer descriptor) := by
  induction fuel generalizing buffer descriptor with
  | zero => exact absurd enough (Nat.not_lt_zero _)
  | succ fuel ih => exact pass_explained ih buffer descriptor (Nat.le_of_lt_succ enough)

theorem receive_explained (buffer : Bytes) (descriptor : Descriptor) :
    Explained buffer.length descriptor (receive buffer descriptor) :=
  receiveWithin_explained buffer descriptor (Nat.lt_succ_self _)

end UdpSocket

end IpTunnel
