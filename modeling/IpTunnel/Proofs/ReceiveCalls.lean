import IpTunnel.Proofs.Reception

namespace IpTunnel

def Descriptor.marks : List (Descriptor → Bool) := [readable, failing]

theorem Descriptor.marks_cases {mark : Descriptor → Bool} (known : mark ∈ marks) :
    mark = readable ∨ mark = failing := by
  simpa [marks] using known

namespace UdpSocket

open Descriptor (marks Blocks)

-- Nothing is added to what the system has for a receive, and no mark is set.
structure Shrinks (before after : Descriptor) : Prop where
  incoming : after.incoming <:+ before.incoming
  reports : after.reports <:+ before.reports
  marked : ∀ mark ∈ marks, mark after = true → mark before = true

theorem Shrinks.refl (descriptor : Descriptor) : Shrinks descriptor descriptor :=
  ⟨List.suffix_refl _, List.suffix_refl _, fun _ _ => id⟩

theorem Shrinks.trans (first : Shrinks before middle) (second : Shrinks middle after) : Shrinks before after where
  incoming := second.incoming.trans first.incoming
  reports := second.reports.trans first.reports
  marked mark known := first.marked mark known ∘ second.marked mark known

-- What a pass can use up: a result, an entry of the error queue, or a mark.
inductive UsesUp (before after : Descriptor) : Prop where
  | item (queue : before.incoming = item :: after.incoming)
  | entry (queue : before.reports = entry :: after.reports)
  | mark (known : mark ∈ marks) (set : mark before = true) (clear : mark after = false)

inductive Goes (before after : Descriptor) : List SystemCall → Step → Prop where
  | returned : Goes before after calls (.returned outcome)
  | asleep (unmarked : ∀ mark ∈ marks, mark before = false) (same : after = before) : Goes before after [] .asleep
  | again (used : UsesUp before after) : Goes before after calls .again

structure Frugal (before : Descriptor) (passed : Passed) : Prop where
  shrinks : Shrinks before passed.descriptor
  goes : Goes before passed.descriptor passed.calls passed.step
  -- All calls are paid for by what is used up.
  paid : passed.calls.length + 2 * passes passed.descriptor ≤ 2 * passes before

variable {mark : Descriptor → Bool}

theorem shrinks_of_blocks (blocks : Blocks before after) (readable : before.readable = true) :
    Shrinks before after := by
  refine ⟨?_, blocks.reports ▸ List.suffix_refl _, ?_⟩
  · rw [blocks.incoming]
    exact List.tail_suffix _
  · simp [marks, readable, blocks.failing]

theorem shrinks_of_taken {descriptor : Descriptor} (queue : descriptor.incoming = item :: rest) :
    Shrinks descriptor { descriptor with incoming := rest } :=
  ⟨queue ▸ List.suffix_cons _ _, List.suffix_refl _, by simp [marks]⟩

theorem shrinks_of_read (descriptor : Descriptor) :
    Shrinks descriptor { descriptor with reports := descriptor.reports.tail } :=
  ⟨List.suffix_refl _, List.tail_suffix _, by simp [marks]⟩

theorem shrinks_of_settled {descriptor : Descriptor} (failing : descriptor.failing = true) :
    Shrinks descriptor { descriptor with reports := descriptor.reports.tail, failing := false } :=
  ⟨List.suffix_refl _, List.tail_suffix _, by simp [marks, failing]⟩

theorem Shrinks.toNat_le (shrinks : Shrinks before after) (known : mark ∈ marks) :
    (mark after).toNat ≤ (mark before).toNat := by
  have kept := shrinks.marked mark known
  cases marked : mark after with
  | false => exact Nat.zero_le _
  | true => exact Nat.le_of_eq (congrArg Bool.toNat (kept marked).symm)

theorem passes_lt (shrinks : Shrinks before after) (used : UsesUp before after) : passes after < passes before := by
  have incoming := shrinks.incoming.length_le
  have reports := shrinks.reports.length_le
  have readable := shrinks.toNat_le (List.mem_cons_self ..)
  have failing := shrinks.toNat_le (List.mem_cons_of_mem _ (List.mem_cons_self ..))
  unfold passes
  cases used with
  | item queue =>
    rw [queue, List.length_cons]
    omega
  | entry queue =>
    rw [queue, List.length_cons]
    omega
  | mark known set clear =>
    obtain rfl | rfl := Descriptor.marks_cases known
    all_goals
      simp only [set, clear, Bool.toNat_true, Bool.toNat_false]
      omega

theorem Goes.used (goes : Goes before after calls .again) : UsesUp before after := by
  cases goes with
  | again used => exact used

theorem Goes.quiet (goes : Goes before after calls .asleep) :
    (∀ mark ∈ marks, mark before = false) ∧ after = before ∧ calls = [] := by
  cases goes with
  | asleep unmarked same => exact ⟨unmarked, same, rfl⟩

theorem Frugal.quiet {passed : Passed} (frugal : Frugal before passed) (step : passed.step = .asleep) :
    (∀ mark ∈ marks, mark before = false) ∧ passed.descriptor = before ∧ passed.calls = [] :=
  Goes.quiet (step ▸ frugal.goes)

theorem Frugal.onward {passed : Passed} (frugal : Frugal before passed) (step : passed.step = .again) :
    passes passed.descriptor < passes before :=
  passes_lt frugal.shrinks (Goes.used (step ▸ frugal.goes))

theorem takeDatagram_frugal (buffer : Bytes) {descriptor : Descriptor} (readable : descriptor.readable = true) :
    Frugal descriptor (takeDatagram buffer descriptor) := by
  unfold takeDatagram
  obtain ⟨middle, taken, blocks⟩ | ⟨data, rest, queue, taken⟩ | ⟨errno, rest, other, queue, taken⟩ :=
    descriptor.take_cases
  · have fewer := passes_lt_of_blocks blocks readable
    rw [taken]
    refine ⟨shrinks_of_blocks blocks readable, .again (.mark (List.mem_cons_self ..) readable blocks.readable), ?_⟩
    simp only [List.length_singleton]
    omega
  · have shrinks := shrinks_of_taken queue
    have fewer := passes_lt shrinks (.item queue)
    rw [taken]
    dsimp only
    split
    · refine ⟨shrinks, .again (.item queue), ?_⟩
      simp only [List.length_singleton]
      omega
    · refine ⟨shrinks, .returned, ?_⟩
      simp only [List.length_singleton]
      omega
  · have gives := ErrorQueue.read_gives buffer descriptor.reports
    have shrinks := (shrinks_of_taken queue).trans (shrinks_of_read _)
    have fewer := passes_lt shrinks (.item queue)
    rw [taken]
    simp only [gives.rest]
    split
    all_goals
      refine ⟨shrinks, .returned, ?_⟩
      simp only [List.length_cons, List.length_nil] at fewer ⊢
      omega

theorem settled_frugal (buffer : Bytes) (settles : Shrinks before middle) (fewer : passes middle < passes before)
    (failing : before.failing = true) (settled : middle.failing = false) (readable : middle.readable = true) :
    Frugal before { takeDatagram buffer middle with calls := .readErrors :: (takeDatagram buffer middle).calls } := by
  have frugal := takeDatagram_frugal buffer readable
  generalize takeDatagram buffer middle = passed at frugal
  obtain ⟨after, left, notices, step, calls⟩ := passed
  obtain ⟨shrinks, goes, paid⟩ := frugal
  refine ⟨settles.trans shrinks, ?_, ?_⟩
  · cases goes with
    | returned => exact .returned
    | asleep unmarked _ =>
      rw [unmarked (·.readable) (List.mem_cons_self ..)] at readable
      cases readable
    | again _ =>
      have kept := shrinks.marked (·.failing) (by simp [marks])
      rw [settled] at kept
      exact .again (.mark (by simp [marks]) failing (Bool.eq_false_iff.mpr fun marked => nomatch kept marked))
  · simp only [List.length_cons] at paid ⊢
    omega

theorem pass_frugal (buffer : Bytes) (descriptor : Descriptor) : Frugal descriptor (pass buffer descriptor) := by
  unfold pass
  by_cases failing : descriptor.failing = true
  · have gives := ErrorQueue.read_gives buffer descriptor.reports
    simp only [if_pos failing, gives.outcome, gives.rest]
    by_cases quiet : ErrorQueue.reading buffer.length descriptor.reports = .error .tryAgain
    · have fewer := passes_lt_of_settled failing
      have settles := shrinks_of_settled failing
      rw [quiet]
      simp only [Except.map, if_true]
      split
      · rename_i readable
        exact settled_frugal _ settles fewer failing rfl readable
      · refine ⟨settles, .again (.mark (by simp [marks]) failing rfl), ?_⟩
        simp only [List.length_singleton]
        omega
    · obtain ⟨entry, rest, queue⟩ := ErrorQueue.head_of_loud quiet
      have shrinks := shrinks_of_read descriptor
      have fewer := passes_lt shrinks (.entry (queue.trans (by rw [queue, List.tail_cons])))
      cases found : ErrorQueue.reading buffer.length descriptor.reports with
      | ok read =>
        refine ⟨shrinks, .returned, ?_⟩
        simp only [Except.map, List.length_singleton]
        omega
      | error cause =>
        have loud : cause ≠ .tryAgain := fun same => quiet (found.trans (congrArg Except.error same))
        simp only [Except.map, if_neg loud]
        refine ⟨shrinks, .returned, ?_⟩
        simp only [List.length_singleton]
        omega
  · rw [if_neg failing]
    split
    · rename_i readable
      exact takeDatagram_frugal buffer readable
    · rename_i readable
      refine ⟨.refl descriptor, .asleep ?_ rfl, by simp⟩
      simp [marks, readable, failing]

structure Pass where
  buffer : Bytes
  before : Descriptor

namespace Pass

def passed (one : Pass) : Passed := pass one.buffer one.before

def after (one : Pass) : Descriptor := one.passed.descriptor

def next (one : Pass) : Pass := ⟨one.passed.buffer, one.after⟩

theorem frugal (one : Pass) : Frugal one.before one.passed := pass_frugal one.buffer one.before

theorem resume_eq (one : Pass) (fuel : Nat) :
    receiveWithin (fuel + 1) one.buffer one.before = one.passed.resume fuel := rfl

end Pass

-- A receive as its passes; only the last one returns or falls asleep.
inductive Passing : Pass → List Pass → Receiving → Prop where
  | returned (step : one.passed.step = .returned outcome) :
      Passing one [one] ⟨one.after, one.passed.buffer, one.passed.notices, some outcome⟩
  | asleep (step : one.passed.step = .asleep) :
      Passing one [one] ⟨one.after, one.passed.buffer, one.passed.notices, none⟩
  | again (step : one.passed.step = .again) (rest : Passing one.next trail receiving) :
      Passing one (one :: trail) { receiving with notices := one.passed.notices ++ receiving.notices }

namespace Passing

variable {one : Pass} {trail : List Pass} {receiving : Receiving}

theorem receiveWithin_eq (passing : Passing one trail receiving) {fuel : Nat} (enough : trail.length ≤ fuel) :
    receiveWithin fuel one.buffer one.before = receiving := by
  induction passing generalizing fuel with
  | returned step =>
    obtain ⟨fuel, rfl⟩ := Nat.exists_eq_add_one.mpr enough
    rw [Pass.resume_eq, Passed.resume, step]
    rfl
  | asleep step =>
    obtain ⟨fuel, rfl⟩ := Nat.exists_eq_add_one.mpr enough
    rw [Pass.resume_eq, Passed.resume, step]
    rfl
  | again step rest ih =>
    obtain ⟨fuel, rfl⟩ := Nat.exists_eq_add_one.mpr (Nat.lt_of_lt_of_le (Nat.succ_pos _) enough)
    have onward := ih (Nat.le_of_succ_le_succ enough)
    rw [Pass.resume_eq, Passed.resume, step, ← onward]
    rfl

theorem shrinks (passing : Passing one trail receiving) : Shrinks one.before receiving.descriptor := by
  induction passing with
  | returned step => exact (Pass.frugal _).shrinks
  | asleep step => exact (Pass.frugal _).shrinks
  | again step rest ih => exact (Pass.frugal _).shrinks.trans ih

theorem length_le (passing : Passing one trail receiving) : trail.length ≤ passes one.before + 1 := by
  induction passing with
  | returned step => exact Nat.le_add_left _ _
  | asleep step => exact Nat.le_add_left _ _
  | @again _ _ one step rest ih =>
    have fewer : passes one.after < passes one.before := one.frugal.onward step
    exact Nat.succ_le_succ (Nat.le_trans ih fewer)

theorem paid (passing : Passing one trail receiving) :
    (trail.flatMap (·.passed.calls)).length + 2 * passes receiving.descriptor ≤ 2 * passes one.before := by
  induction passing with
  | @returned one _ step =>
    simp only [List.flatMap_cons, List.flatMap_nil, List.append_nil]
    exact one.frugal.paid
  | @asleep one step =>
    simp only [List.flatMap_cons, List.flatMap_nil, List.append_nil]
    exact one.frugal.paid
  | @again _ _ one step rest ih =>
    have first := one.frugal.paid
    change _ + 2 * passes one.after ≤ _ at first
    change _ ≤ 2 * passes one.after at ih
    simp only [List.flatMap_cons, List.length_append] at ih ⊢
    omega

theorem unmarked_of_asleep (passing : Passing one trail receiving) (asleep : receiving.outcome = none) :
    ∀ mark ∈ marks, mark receiving.descriptor = false := by
  induction passing with
  | returned step => cases asleep
  | @asleep one step =>
    obtain ⟨unmarked, same, _⟩ := one.frugal.quiet step
    rw [← same] at unmarked
    exact unmarked
  | again step rest ih => exact ih asleep

theorem exists_of_passes (one : Pass) : ∃ trail receiving, Passing one trail receiving := by
  induction bound : passes one.before using Nat.strongRecOn generalizing one with
  | ind bound ih =>
    cases step : one.passed.step with
    | returned outcome => exact ⟨_, _, .returned step⟩
    | asleep => exact ⟨_, _, .asleep step⟩
    | again =>
      obtain ⟨trail, receiving, rest⟩ := ih _ (bound ▸ one.frugal.onward step) one.next rfl
      exact ⟨_, _, .again step rest⟩

end Passing

theorem receive_passing (one : Pass) : ∃ trail, Passing one trail (receive one.buffer one.before) := by
  obtain ⟨trail, receiving, passing⟩ := Passing.exists_of_passes one
  have same : receive one.buffer one.before = receiving := passing.receiveWithin_eq passing.length_le
  exact ⟨trail, same ▸ passing⟩

-- Only the notice of an edge sets a mark.
theorem edge_of_marked {descriptor : Descriptor} {next : Turn} (known : mark ∈ marks)
    (unmarked : mark descriptor = false) (marked : mark (turn descriptor next) = true) :
    next = .wake ∧ descriptor.edge = true := by
  cases next with
  | receive buffer =>
    obtain ⟨_, passing⟩ := receive_passing ⟨buffer, descriptor⟩
    have kept := passing.shrinks.marked mark known marked
    rw [unmarked] at kept
    cases kept
  | send endpoint packet peer retries =>
    have spares := sendWithin_spares endpoint packet peer (attemptsLeft descriptor) retries descriptor
    have same : mark (turn descriptor (.send endpoint packet peer retries)) = mark descriptor := by
      obtain rfl | rfl := Descriptor.marks_cases known
      · exact spares.readable
      · exact spares.failing
    rw [same, unmarked] at marked
    cases marked
  | wake =>
    cases edge : descriptor.edge with
    | true => exact ⟨rfl, rfl⟩
    | false =>
      have still : descriptor.wake = descriptor := if_neg (Bool.eq_false_iff.mp edge)
      rw [turn, still, unmarked] at marked
      cases marked

theorem edge_of_remarked {turns : List Turn} {start : Descriptor} (known : mark ∈ marks)
    (unmarked : mark start = false) (marked : mark (turns.foldl turn start) = true) :
    ∃ earlier later, turns = earlier ++ .wake :: later ∧ (earlier.foldl turn start).edge = true := by
  induction turns generalizing start with
  | nil =>
    rw [List.foldl_nil, unmarked] at marked
    cases marked
  | cons next rest ih =>
    cases set : mark (turn start next) with
    | true =>
      obtain ⟨rfl, edge⟩ := edge_of_marked known unmarked set
      exact ⟨[], rest, rfl, edge⟩
    | false =>
      obtain ⟨earlier, later, rfl, edge⟩ := ih set marked
      exact ⟨next :: earlier, later, rfl, edge⟩

-- Why a receive does not go on for ever.
structure Settles (start : Pass) (trail : List Pass) (receiving : Receiving) : Prop where
  passing : Passing start trail receiving
  -- However long it may go on, this is where it ends.
  settled : ∀ fuel, passes start.before < fuel → receiveWithin fuel start.buffer start.before = receiving
  each : ∀ one ∈ trail, Frugal one.before one.passed
  short : trail.length ≤ passes start.before + 1
  paid : (trail.flatMap (·.passed.calls)).length ≤ 2 * passes start.before
  -- It sleeps without a mark, and nothing that happens to the socket sets one but an edge.
  asleep : receiving.outcome = none → ∀ mark ∈ marks, mark receiving.descriptor = false
  edges : ∀ mark ∈ marks, mark receiving.descriptor = false → ∀ turns,
    mark (turns.foldl turn receiving.descriptor) = true →
      ∃ earlier later, turns = earlier ++ .wake :: later ∧ (earlier.foldl turn receiving.descriptor).edge = true

-- Whatever the system has for it and whichever marks are set, a receive comes to its end after a few calls.
theorem receive_settles (buffer : Bytes) (descriptor : Descriptor) :
    ∃ trail, Settles ⟨buffer, descriptor⟩ trail (receive buffer descriptor) := by
  obtain ⟨trail, passing⟩ := receive_passing ⟨buffer, descriptor⟩
  refine ⟨trail, passing, ?_, fun one _ => one.frugal, passing.length_le, ?_, passing.unmarked_of_asleep, ?_⟩
  · intro fuel enough
    exact passing.receiveWithin_eq (Nat.le_trans passing.length_le enough)
  · exact Nat.le_trans (Nat.le_add_right _ _) passing.paid
  · intro mark known unmarked turns marked
    exact edge_of_remarked known unmarked marked

end UdpSocket

end IpTunnel
