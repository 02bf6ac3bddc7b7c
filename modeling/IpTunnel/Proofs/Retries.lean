import IpTunnel.Proofs.Endpoint

namespace IpTunnel

namespace Outgoing

def errno? : Outgoing → Option Int
  | .done => none
  | .failure errno => some errno
  | .again => some Descriptor.wouldBlock

-- How the attempt with this number ends; once the results are used up, attempts succeed.
def result (results : List Outgoing) (index : Nat) : Option Int := results[index]?.bind errno?

def answered (errnos : List (Option Int)) : List (Option Int) := errnos.filter (· ≠ some Descriptor.wouldBlock)

def answer (results : List Outgoing) (index : Nat) : Option Int := (answered (results.map errno?))[index]?.join

-- Connection refused, no way to the host or to its network, host or network down, protocol error.
def delayedNumbers : List Int := [111, 113, 101, 112, 100, 71]

def Delayed (errno : Option Int) : Prop := ∃ number ∈ delayedNumbers, errno = some number

instance : DecidablePred Delayed := fun errno =>
  inferInstanceAs (Decidable (∃ number ∈ delayedNumbers, errno = some number))

def outcomeOf : Option Int → Except IoError Unit
  | none => .ok ()
  | some errno => .error (.system errno)

variable {results : List Outgoing} {errno : Int}

theorem isDelayed_iff (errno : Int) : UdpSocket.isDelayed errno = true ↔ Delayed (some errno) := by
  simp [UdpSocket.isDelayed, Delayed, delayedNumbers]

theorem delayed_some (errno : Int) : Delayed (some errno) ↔ errno ∈ delayedNumbers := by
  simp [Delayed]

theorem outcomeOf_eq_ok {errno : Option Int} : outcomeOf errno = .ok () ↔ errno = none := by
  cases errno <;> simp [outcomeOf]

theorem outcomeOf_eq_error {errno : Option Int} {cause : IoError} :
    outcomeOf errno = .error cause ↔ ∃ number, cause = .system number ∧ errno = some number := by
  cases errno with
  | none => simp [outcomeOf]
  | some number => simp [outcomeOf, eq_comm]

theorem result_tail (results : List Outgoing) (index : Nat) :
    result results.tail index = result results (index + 1) := by
  cases results <;> simp [result]

theorem answered_heard (heard : errno ≠ Descriptor.wouldBlock) (errnos : List (Option Int)) :
    answered (some errno :: errnos) = some errno :: answered errnos :=
  List.filter_cons_of_pos (by simpa using heard)

theorem answer_blocked (blocked : result results 0 = some Descriptor.wouldBlock) (index : Nat) :
    answer results index = answer results.tail index := by
  cases results with
  | nil => cases blocked
  | cons first rest =>
    have head : first.errno? = some Descriptor.wouldBlock := by simpa [result] using blocked
    simp [answer, answered, head]

theorem answer_failed (failed : result results 0 = some errno) (heard : errno ≠ Descriptor.wouldBlock) :
    answer results 0 = some errno ∧ answer results 1 = answer results.tail 0 := by
  cases results with
  | nil => cases failed
  | cons first rest =>
    have head : first.errno? = some errno := by simpa [result] using failed
    simp [answer, answered, head, heard]

theorem answer_done (done : result results 0 = none) : answer results 0 = none := by
  cases results with
  | nil => rfl
  | cons first rest =>
    have head : first.errno? = none := by simpa [result] using done
    simp [answer, answered, head]

end Outgoing

open Outgoing

-- The attempts of a send, from these results to those that are left, and what comes of them.
inductive Tried : Nat → List Outgoing → List (Option Int) → Nat → List Outgoing → Option (Except IoError Unit) → Prop
    where
  | waiting : Tried retries results [] retries results none
  | blocked (blocks : result results 0 = some Descriptor.wouldBlock)
      (onward : Tried retries results.tail made left rest outcome) :
      Tried retries results (some Descriptor.wouldBlock :: made) left rest outcome
  | sent (done : result results 0 = none) : Tried retries results [none] retries results.tail (some (.ok ()))
  | failed (fails : result results 0 = some errno) (heard : errno ≠ Descriptor.wouldBlock)
      (final : retries = 0 ∨ ¬ Delayed (some errno)) :
      Tried retries results [some errno] retries results.tail (some (.error (.system errno)))
  | retried (fails : result results 0 = some errno) (heard : errno ≠ Descriptor.wouldBlock)
      (delayed : Delayed (some errno)) (onward : Tried retries results.tail made left rest outcome) :
      Tried (retries + 1) results (some errno :: made) left rest outcome

namespace Tried

theorem append {retries middle left : Nat} {results between rest : List Outgoing} {made more : List (Option Int)}
    {outcome : Option (Except IoError Unit)} (first : Tried retries results made middle between none)
    (second : Tried middle between more left rest outcome) :
    Tried retries results (made ++ more) left rest outcome := by
  generalize unfinished : (none : Option (Except IoError Unit)) = pending at first
  induction first with
  | waiting => exact second
  | blocked blocks _ ih => exact .blocked blocks (ih second unfinished)
  | sent => cases unfinished
  | failed => cases unfinished
  | retried fails heard delayed _ ih => exact .retried fails heard delayed (ih second unfinished)

variable {retries left : Nat} {results rest : List Outgoing} {made : List (Option Int)}
  {outcome : Option (Except IoError Unit)}

theorem rest_eq (tried : Tried retries results made left rest outcome) : rest = results.drop made.length := by
  induction tried with
  | waiting => rfl
  | blocked _ _ ih => rw [ih, List.length_cons, List.drop_tail]
  | sent => simp
  | failed => simp
  | retried _ _ _ _ ih => rw [ih, List.length_cons, List.drop_tail]

theorem made_eq (tried : Tried retries results made left rest outcome) :
    made = (List.range made.length).map (result results) := by
  have cons {first : Option Int} {results : List Outgoing} {made : List (Option Int)}
      (head : result results 0 = first) (others : made = (List.range made.length).map (result results.tail)) :
      first :: made = (List.range (first :: made).length).map (result results) := by
    rw [List.length_cons, List.range_succ_eq_map, List.map_cons, List.map_map, head]
    congr 1
    refine others.trans (List.map_congr_left fun index _ => ?_)
    exact result_tail results index
  induction tried with
  | waiting => rfl
  | blocked blocks _ ih => exact cons blocks ih
  | sent done => exact cons done rfl
  | failed fails => exact cons fails rfl
  | retried fails _ _ _ ih => exact cons fails ih

-- No attempt succeeded and none counts so far, or the last one counts and only that one can have succeeded.
inductive Ended : List (Option Int) → Option (Except IoError Unit) → Prop where
  | waiting {made : List (Option Int)} (unsent : none ∉ made) : Ended made none
  | counted {front : List (Option Int)} (errno : Option Int) (unsent : none ∉ front) :
      Ended (front ++ [errno]) (some (outcomeOf errno))

theorem Ended.cons {number : Int} (ended : Ended made outcome) : Ended (some number :: made) outcome := by
  cases ended with
  | waiting unsent => exact .waiting (by simpa using unsent)
  | @counted front errno unsent =>
    have later : none ∉ some number :: front := by simpa using unsent
    exact .counted errno later

theorem ended (tried : Tried retries results made left rest outcome) : Ended made outcome := by
  induction tried with
  | waiting => exact .waiting List.not_mem_nil
  | blocked _ _ ih => exact ih.cons
  | sent => exact .counted none List.not_mem_nil
  | failed => exact .counted (some _) List.not_mem_nil
  | retried _ _ _ _ ih => exact ih.cons

theorem lastTry (tried : Tried retries results made left rest outcome) (spent : retries = 0) :
    (outcome = none ∧ answered made = []) ∨
      (outcome = some (outcomeOf (answer results 0)) ∧ answered made = [answer results 0]) := by
  induction tried with
  | waiting => exact .inl ⟨rfl, rfl⟩
  | blocked blocks _ ih =>
    rw [answer_blocked blocks]
    simpa [answered] using ih spent
  | sent done =>
    rw [answer_done done]
    exact .inr ⟨rfl, rfl⟩
  | failed fails heard =>
    rw [(answer_failed fails heard).1]
    exact .inr ⟨rfl, answered_heard heard []⟩
  | retried => cases spent

-- With one retry the first answer counts if it is not about an earlier datagram, and the second one if it is.
inductive Counts (first second : Option Int) : List (Option Int) → Option (Except IoError Unit) → Prop where
  | unanswered : Counts first second [] none
  | once (other : ¬ Delayed first) : Counts first second [first] (some (outcomeOf first))
  | pending (delayed : Delayed first) : Counts first second [first] none
  | twice (delayed : Delayed first) : Counts first second [first, second] (some (outcomeOf second))

theorem firstTry (tried : Tried retries results made left rest outcome) (fresh : retries = 1) :
    Counts (answer results 0) (answer results 1) (answered made) outcome := by
  induction tried with
  | waiting => exact .unanswered
  | blocked blocks _ ih =>
    rw [answer_blocked blocks, answer_blocked blocks]
    simpa [answered] using ih fresh
  | sent done =>
    rw [answer_done done]
    exact .once (by simp [Delayed])
  | failed fails heard final =>
    subst fresh
    rw [(answer_failed fails heard).1, answered_heard heard]
    exact .once (final.resolve_left Nat.one_ne_zero)
  | retried fails heard delayed onward =>
    cases fresh
    obtain ⟨first, second⟩ := answer_failed fails heard
    rw [first, second, answered_heard heard]
    obtain ⟨rfl, nothing⟩ | ⟨rfl, one⟩ := onward.lastTry rfl
    · rw [nothing]
      exact .pending delayed
    · rw [one]
      exact .twice delayed

theorem spent (tried : Tried retries results made left rest outcome) :
    (none ∈ made ↔ outcome = some (.ok ())) ∧ made.count none ≤ 1 ∧ none ∉ made.dropLast ∧
      ∀ returned, outcome = some returned → made.getLast?.map outcomeOf = some returned := by
  cases tried.ended with
  | waiting unsent =>
    refine ⟨by simpa using unsent, ?_, ?_, nofun⟩
    · simp [List.count_eq_zero_of_not_mem unsent]
    · exact fun among => unsent (List.dropLast_subset made among)
  | counted errno unsent =>
    refine ⟨?_, ?_, ?_, ?_⟩
    · rw [Option.some.injEq, outcomeOf_eq_ok]
      simp [unsent, eq_comm]
    · rw [List.count_append, List.count_eq_zero_of_not_mem unsent, Nat.zero_add]
      exact List.count_le_length
    · simpa using unsent
    · simp

theorem decided (tried : Tried 1 results made left rest outcome) (returned : outcome ≠ none) :
    answered made =
        (if Delayed (answer results 0) then [answer results 0, answer results 1] else [answer results 0]) ∧
      (outcome = some (.ok ()) ↔ answer results 0 = none ∨ Delayed (answer results 0) ∧ answer results 1 = none) ∧
      ∀ cause, outcome = some (.error cause) ↔ ∃ errno, cause = .system errno ∧
        (answer results 0 = some errno ∧ errno ∉ delayedNumbers ∨
          Delayed (answer results 0) ∧ answer results 1 = some errno) := by
  have counts := tried.firstTry rfl
  generalize answered made = answers at counts
  cases counts with
  | unanswered => exact absurd rfl returned
  | once other =>
    refine ⟨(if_neg other).symm, ?_, fun cause => ?_⟩
    · rw [Option.some.injEq, outcomeOf_eq_ok]
      simp [other]
    · rw [Option.some.injEq, outcomeOf_eq_error]
      refine exists_congr fun errno => and_congr_right fun _ => ?_
      constructor
      · intro first
        rw [first, delayed_some] at other
        exact .inl ⟨first, other⟩
      · rintro (⟨first, _⟩ | ⟨delayed, _⟩)
        · exact first
        · exact absurd delayed other
  | pending => exact absurd rfl returned
  | twice delayed =>
    have heard : answer results 0 ≠ none := by
      obtain ⟨number, _, first⟩ := delayed
      simp [first]
    refine ⟨(if_pos delayed).symm, ?_, fun cause => ?_⟩
    · rw [Option.some.injEq, outcomeOf_eq_ok]
      simp [delayed, heard]
    · rw [Option.some.injEq, outcomeOf_eq_error]
      refine exists_congr fun errno => and_congr_right fun _ => ?_
      constructor
      · exact fun second => .inr ⟨delayed, second⟩
      · rintro (⟨first, absent⟩ | ⟨_, second⟩)
        · rw [first, delayed_some] at delayed
          exact absurd delayed absent
        · exact second

end Tried

namespace Descriptor

-- The next attempt is sure to be made, now or after an edge, however often one has to wait.
structure Resumes (descriptor : Descriptor) : Prop where
  ready : descriptor.mayWrite = true ∨ descriptor.edge = true
  followed : descriptor.writeClosed = true ∨ .failure wouldBlock ∉ descriptor.outgoing

def Given.of : Option Int → Given
  | none => .done
  | some errno => if errno = wouldBlock then .blocked else .failed errno

structure Gives (call : Option Int → Call) (before after : Descriptor) : Prop where
  calls : after.calls = before.calls ++ [call (result before.outgoing 0)]
  outgoing : after.outgoing = before.outgoing.tail
  load : after.load ≤ before.load
  resumes : before.mayWrite = true → before.Resumes → after.Resumes

theorem give_gives (call : Option Int → Call) (descriptor : Descriptor) :
    (descriptor.give call).2 = .of (result descriptor.outgoing 0) ∧
      Gives call descriptor (descriptor.give call).1 := by
  have followed {first : Outgoing} {rest : List Outgoing} {closed : Bool}
      (before : closed = true ∨ .failure wouldBlock ∉ first :: rest) : closed = true ∨ .failure wouldBlock ∉ rest :=
    before.imp_right fun absent among => absent (List.mem_cons_of_mem _ among)
  obtain ⟨incoming, outgoing, reports, readable, writable, failing, writeClosed, edge, drained, calls⟩ := descriptor
  rcases outgoing with _ | ⟨_ | errno | _, rest⟩
  · exact ⟨rfl, rfl, rfl, Nat.le_refl _, fun _ resumes => ⟨resumes.ready, resumes.followed⟩⟩
  · refine ⟨rfl, rfl, rfl, ?_, fun writes resumes => ⟨.inl writes, ?_⟩⟩
    · simp only [give, load, work, List.length_cons]
      omega
    · exact followed resumes.followed
  · by_cases blocks : errno = wouldBlock
    · subst blocks
      refine ⟨rfl, rfl, rfl, ?_, fun _ resumes => ?_⟩
      · simp only [give, load, work, if_true, List.length_cons]
        omega
      · have closed : writeClosed = true := resumes.followed.resolve_right (by simp)
        exact ⟨.inl (by simp [give, mayWrite, closed]), .inl closed⟩
    · simp only [give, if_neg blocks, result, List.getElem?_cons_zero, Option.bind_some, errno?, Given.of]
      refine ⟨trivial, rfl, rfl, ?_, fun writes resumes => ⟨.inl writes, ?_⟩⟩
      · simp only [load, work, List.length_cons]
        omega
      · exact followed resumes.followed
  · refine ⟨rfl, rfl, rfl, ?_, fun _ resumes => ⟨.inr rfl, ?_⟩⟩
    · simp only [give, load, work, List.length_cons, Bool.toNat_true]
      omega
    · exact followed resumes.followed

theorem wake_still {descriptor : Descriptor} (still : descriptor.edge = false) : descriptor.wake = descriptor := by
  simp [wake, still]

theorem Resumes.wake {descriptor : Descriptor} (resumes : descriptor.Resumes) : descriptor.wake.Resumes := by
  cases edge : descriptor.edge with
  | false => rwa [wake_still edge]
  | true =>
    rw [Descriptor.wake, if_pos edge]
    refine ⟨.inl (by simp [mayWrite]), ?_⟩
    exact resumes.followed.imp_left fun closed => by simp [closed]

theorem resumes_opened {outgoing : List Outgoing} (followed : .failure wouldBlock ∉ outgoing)
    (incoming : List Incoming) (reports : List Report) : (opened incoming outgoing reports).Resumes :=
  ⟨.inr rfl, .inr followed⟩

theorem calls_wake (descriptor : Descriptor) : descriptor.wake.calls = descriptor.calls := by
  unfold wake
  split <;> rfl

theorem outgoing_wake (descriptor : Descriptor) : descriptor.wake.outgoing = descriptor.outgoing := by
  unfold wake
  split <;> rfl

end Descriptor

namespace UdpSocket

-- The attempts of a send before it has to wait for an edge, if it has to.
structure Tries (packet : Bytes) (peer : Endpoint) (retries : Nat) (before : Descriptor) (made : List (Option Int))
    (sending : Sending) : Prop where
  calls : sending.descriptor.calls = before.calls ++ made.map (Call.sendTo packet peer)
  tried : Tried retries before.outgoing made sending.retries sending.descriptor.outgoing sending.outcome
  asleep : sending.outcome = none → sending.descriptor.mayWrite = false
  load : sending.descriptor.load ≤ before.load
  resumes : before.Resumes → sending.descriptor.Resumes

section

variable {packet : Bytes} {peer : Endpoint} {retries others left : Nat} {before after : Descriptor}
  {made : List (Option Int)} {sending : Sending}

theorem Tries.last {outcome : Except IoError Unit} (writes : before.mayWrite = true)
    (gives : before.Gives (.sendTo packet peer) after)
    (tried : Tried retries before.outgoing [result before.outgoing 0] left before.outgoing.tail (some outcome)) :
    Tries packet peer retries before [result before.outgoing 0] ⟨after, [], left, some outcome⟩ where
  calls := gives.calls
  tried := gives.outgoing ▸ tried
  asleep := nofun
  load := gives.load
  resumes := gives.resumes writes

theorem Tries.onward (writes : before.mayWrite = true) (gives : before.Gives (.sendTo packet peer) after)
    (tries : Tries packet peer others after made sending)
    (tried : Tried others before.outgoing.tail made sending.retries sending.descriptor.outgoing sending.outcome →
      Tried retries before.outgoing (result before.outgoing 0 :: made) sending.retries sending.descriptor.outgoing
        sending.outcome) : Tries packet peer retries before (result before.outgoing 0 :: made) sending where
  calls := by rw [tries.calls, gives.calls, List.append_assoc, List.map_cons, List.singleton_append]
  tried := tried (gives.outgoing ▸ tries.tried)
  asleep := tries.asleep
  load := Nat.le_trans tries.load gives.load
  resumes resumes := tries.resumes (gives.resumes writes resumes)

end

theorem sendWithin_tries (endpoint : Endpoint) (packet : Bytes) (peer : Endpoint) {fuel : Nat} (retries : Nat)
    {descriptor : Descriptor} (enough : descriptor.outgoing.length < fuel) :
    ∃ made, Tries packet peer retries descriptor made (sendWithin endpoint packet peer fuel retries descriptor) := by
  induction fuel generalizing retries descriptor with
  | zero => exact absurd enough (Nat.not_lt_zero _)
  | succ fuel ih =>
    unfold sendWithin
    split
    · rename_i writes
      obtain ⟨ended, gives⟩ := descriptor.give_gives (.sendTo packet peer)
      generalize descriptor.give (.sendTo packet peer) = attempt at ended gives
      obtain ⟨after, given⟩ := attempt
      simp only at ended gives
      -- An attempt that fails uses up a result.
      have fewer {errno : Int} (fails : result descriptor.outgoing 0 = some errno) : after.outgoing.length < fuel := by
        rw [gives.outgoing, List.length_tail]
        cases left : descriptor.outgoing with
        | nil => simp [result, left] at fails
        | cons first rest => simpa [left] using enough
      cases first : result descriptor.outgoing 0 with
      | none =>
        rw [first] at ended
        subst ended
        exact ⟨_, .last writes gives (first ▸ .sent first)⟩
      | some errno =>
        rw [first] at ended
        by_cases blocks : errno = Descriptor.wouldBlock
        · subst blocks ended
          obtain ⟨made, tries⟩ := ih retries (fewer first)
          exact ⟨_, tries.onward writes gives fun onward => first ▸ .blocked first onward⟩
        · obtain rfl : given = .failed errno := ended.trans (if_neg blocks)
          cases retries with
          | zero => exact ⟨_, .last writes gives (first ▸ .failed first blocks (.inl rfl))⟩
          | succ retries =>
            simp only
            split
            · rename_i delayed
              obtain ⟨made, tries⟩ := ih retries (fewer first)
              have whole : Tries packet peer (retries + 1) descriptor _ _ := tries.onward writes gives fun onward =>
                first ▸ .retried first blocks ((isDelayed_iff errno).mp delayed) onward
              exact ⟨_, whole.calls, whole.tried, whole.asleep, whole.load, whole.resumes⟩
            · rename_i other
              have final : ¬ Delayed (some errno) := fun delayed => other ((isDelayed_iff errno).mpr delayed)
              exact ⟨_, .last writes gives (first ▸ .failed first blocks (.inr final))⟩
    · rename_i asleep
      exact ⟨[], (List.append_nil _).symm, .waiting, fun _ => by simpa using asleep, Nat.le_refl _, id⟩

theorem send_tries (endpoint : Endpoint) (packet : Bytes) (peer : Endpoint) (retries : Nat) (descriptor : Descriptor) :
    ∃ made, Tries packet peer retries descriptor made (send endpoint packet peer retries descriptor) :=
  sendWithin_tries endpoint packet peer retries (Nat.lt_succ_self _)

end UdpSocket

namespace Kernel

-- What can still end a wait without a deadline.
def wakings (kernel : Kernel) : Nat := kernel.load + (decide (kernel.signal = .coming false)).toNat

theorem wakings_le_pending (kernel : Kernel) : kernel.wakings ≤ kernel.pending :=
  Nat.le_trans (Nat.add_le_add_left (Bool.toNat_le _) _) (load_lt_pending kernel)

theorem mem_descriptors_socket {kernel : Kernel} {family : Family} {socket : UdpSocket}
    (found : kernel.socket family = some socket) : socket.descriptor ∈ kernel.descriptors := by
  cases family with
  | v4 =>
    have found : kernel.socket4 = some socket := found
    simp [descriptors, found]
  | v6 =>
    have found : kernel.socket6 = some socket := found
    simp [descriptors, found]

theorem coming_of_signalled {kernel : Kernel} (signalled : kernel.isSignalled false = true) :
    kernel.signal = .coming false := by
  unfold isSignalled at signalled
  split at signalled
  · cases signalled
  · assumption
  · cases signalled

-- A wait without a deadline ends with an edge or a signal; if there is neither, it lasts for ever.
theorem await_wakings (kernel : Kernel) :
    (∃ after, kernel.await none = (.woken, after) ∧ after.wakings < kernel.wakings ∧
        ∀ family socket, kernel.socket family = some socket →
          after.socket family = some { socket with descriptor := socket.descriptor.wake }) ∨
      (kernel.await none = (.never, kernel.settle) ∧ ∀ descriptor ∈ kernel.descriptors, descriptor.edge = false) := by
  have same : kernel.settle.descriptors = kernel.descriptors := rfl
  have settled (family : Family) : kernel.settle.socket family = kernel.socket family := by cases family <;> rfl
  unfold await
  by_cases edge : kernel.descriptors.any (·.edge) = true
  · refine .inl ⟨_, if_pos (same ▸ edge), ?_, ?_⟩
    · have lighter := load_wake kernel.descriptors
      rw [edge, Bool.toNat_true] at lighter
      have load : kernel.settle.wake.load = ((kernel.descriptors.map Descriptor.wake).map Descriptor.load).sum := by
        rw [load, descriptors_wake, same]
      have signal : kernel.settle.wake.signal = kernel.signal := rfl
      simp only [wakings, load, signal]
      exact Nat.add_lt_add_right lighter _
    · intro family socket found
      rw [socket_wake, settled, found]
      rfl
  · have still : ∀ descriptor ∈ kernel.descriptors, descriptor.edge = false := by simpa using edge
    simp only [same, edge, Option.isSome_none]
    by_cases signalled : kernel.settle.isSignalled false = true
    · refine .inl ⟨_, if_pos signalled, ?_, ?_⟩
      · have coming : kernel.signal = .coming false := coming_of_signalled signalled
        have load : kernel.settle.raise.load = kernel.load := rfl
        have signal : kernel.settle.raise.signal = .raised := rfl
        simp [wakings, load, signal, coming]
      · intro family socket found
        have edgeless := still _ (mem_descriptors_socket found)
        rw [Descriptor.wake_still edgeless]
        cases family <;> exact found
    · exact .inr ⟨if_neg signalled, still⟩

structure Tries (family : Family) (packet : Bytes) (peer : Endpoint) (retries : Nat) (before : Descriptor)
    (made : List (Option Int)) (now : UdpSocket) (after : Kernel) (outcome : Option (Except IoError Unit)) : Prop where
  found : after.socket family = some now
  calls : now.descriptor.calls = before.calls ++ made.map (Call.sendTo packet peer)
  tried : ∃ left, Tried retries before.outgoing made left now.descriptor.outgoing outcome
  stuck : outcome = none →
    now.descriptor.mayWrite = false ∧ ∀ descriptor ∈ after.descriptors, descriptor.edge = false
  returns : before.Resumes → outcome ≠ none

theorem sendWithin_tries {kernel : Kernel} {family : Family} {socket : UdpSocket}
    (found : kernel.socket family = some socket) (packet : Bytes) (peer : Endpoint) {fuel : Nat} (retries : Nat)
    (enough : kernel.wakings < fuel) :
    ∃ made now, Tries family packet peer retries socket.descriptor made now
      (kernel.sendWithin family packet peer fuel retries).2 (kernel.sendWithin family packet peer fuel retries).1 := by
  -- The attempts up to a wait, and those after it: each wait that ends leaves less that could end another one, so that
  -- the fuel never runs out.
  induction fuel generalizing kernel socket retries with
  | zero => exact absurd enough (Nat.not_lt_zero _)
  | succ fuel ih =>
    obtain ⟨made, tries⟩ := UdpSocket.send_tries socket.endpoint packet peer retries socket.descriptor
    unfold sendWithin
    simp only [found]
    generalize UdpSocket.send socket.endpoint packet peer retries socket.descriptor = sending at tries ⊢
    let asked := (kernel.withSocket family { socket with descriptor := sending.descriptor }).say sending.notices
    have held : asked.socket family = some { socket with descriptor := sending.descriptor } :=
      (socket_say _ _ family).trans (socket_withSocket _ family _)
    have lighter : asked.wakings ≤ kernel.wakings := by
      have size : asked.load + socket.descriptor.load = kernel.load + sending.descriptor.load :=
        load_withSocket found { socket with descriptor := sending.descriptor }
      have signal : asked.signal = kernel.signal := signal_withSocket kernel family _
      have load := tries.load
      simp only [wakings, signal]
      omega
    split
    · rename_i outcome returned
      exact ⟨made, _, held, tries.calls, ⟨_, returned ▸ tries.tried⟩, nofun, fun _ => nofun⟩
    · rename_i unfinished
      have tried := tries.tried
      rw [unfinished] at tried
      obtain ⟨after, woken, fewer, kept⟩ | ⟨never, still⟩ := await_wakings asked
      · rw [woken]
        obtain ⟨more, now, rest⟩ := ih (kept family _ held) sending.retries (by omega)
        obtain ⟨left, others⟩ := rest.tried
        rw [Descriptor.outgoing_wake] at others
        refine ⟨made ++ more, now, rest.found, ?_, ⟨left, tried.append others⟩, rest.stuck, ?_⟩
        · rw [rest.calls, Descriptor.calls_wake, tries.calls, List.append_assoc, List.map_append]
        · exact fun resumes => rest.returns (tries.resumes resumes).wake
      · rw [never]
        have asleep := tries.asleep unfinished
        refine ⟨made, { socket with descriptor := sending.descriptor }, ?_, tries.calls, ⟨_, tried⟩,
          fun _ => ⟨asleep, still⟩, ?_⟩
        · exact Eq.trans (by cases family <;> rfl) held
        · intro resumes _
          have edge := (tries.resumes resumes).ready.resolve_left (by simp [asleep])
          rw [still _ (mem_descriptors_socket held)] at edge
          cases edge

-- A datagram is sent at most once, with one retry. The first two answers decide what comes of it.
structure Sends (packet : Bytes) (peer : Endpoint) (before after : Descriptor) (made : List (Option Int))
    (outcome : Option (Except IoError Unit)) : Prop where
  -- Every attempt is for these octets and this peer, and ends as the system has it.
  calls : after.calls = before.calls ++ made.map (Call.sendTo packet peer)
  results : made = (List.range made.length).map (result before.outgoing)
  left : after.outgoing = before.outgoing.drop made.length
  -- Nothing is attempted after a success or after the attempt that counts.
  success : none ∈ made ↔ outcome = some (.ok ())
  once : made.count none ≤ 1
  front : none ∉ made.dropLast
  last : ∀ returned, outcome = some returned → made.getLast?.map outcomeOf = some returned
  attempts : outcome ≠ none → answered made =
    if Delayed (answer before.outgoing 0) then [answer before.outgoing 0, answer before.outgoing 1]
    else [answer before.outgoing 0]
  ok : outcome ≠ none → (outcome = some (.ok ()) ↔ answer before.outgoing 0 = none ∨
    Delayed (answer before.outgoing 0) ∧ answer before.outgoing 1 = none)
  error : ∀ cause, outcome ≠ none → (outcome = some (.error cause) ↔ ∃ errno, cause = .system errno ∧
    (answer before.outgoing 0 = some errno ∧ errno ∉ delayedNumbers ∨
      Delayed (answer before.outgoing 0) ∧ answer before.outgoing 1 = some errno))

theorem sends_of_tries {family : Family} {packet : Bytes} {peer : Endpoint} {before : Descriptor}
    {made : List (Option Int)} {now : UdpSocket} {after : Kernel} {outcome : Option (Except IoError Unit)}
    (tries : Tries family packet peer 1 before made now after outcome) :
    Sends packet peer before now.descriptor made outcome := by
  obtain ⟨left, tried⟩ := tries.tried
  obtain ⟨success, once, front, last⟩ := tried.spent
  exact {
    calls := tries.calls
    results := tried.made_eq
    left := tried.rest_eq
    success := success
    once := once
    front := front
    last := last
    attempts := fun returned => (tried.decided returned).1
    ok := fun returned => (tried.decided returned).2.1
    error := fun cause returned => (tried.decided returned).2.2 cause }

-- A send waits for ever only if no edge is left; if edges follow, it comes back.
theorem send_retriesOnce {kernel : Kernel} {family : Family} {socket : UdpSocket}
    (found : kernel.socket family = some socket) (packet : Bytes) (peer : Endpoint) :
    ∃ made now, (kernel.send family packet peer).2.socket family = some now ∧
      Sends packet peer socket.descriptor now.descriptor made (kernel.send family packet peer).1 ∧
      (socket.descriptor.Resumes → (kernel.send family packet peer).1 ≠ none) ∧
      ((kernel.send family packet peer).1 = none → now.descriptor.mayWrite = false ∧
        ∀ descriptor ∈ (kernel.send family packet peer).2.descriptors, descriptor.edge = false) := by
  obtain ⟨made, now, tries⟩ := sendWithin_tries found packet peer 1 (Nat.lt_succ_of_le (wakings_le_pending kernel))
  exact ⟨made, now, tries.found, sends_of_tries tries, tries.returns, tries.stuck⟩

-- A socket that is busy twice, reports what became of an earlier datagram, and then has no way to the host.
def busySocket : UdpSocket :=
  ⟨.v4 (.ofOctets 127 0 0 1) 5000, .opened [] [.again, .failure 111, .again, .failure 113, .done] []⟩

def busy : Kernel where
  now := 0
  sleep := id
  tunnel := none
  socket4 := some busySocket
  socket6 := none
  signal := .never
  recording := none
  log := []

def far : Endpoint := .v4 (.ofOctets 192 0 2 7) 5000

theorem send_retriesOnce_busy :
    busy.socket .v4 = some busySocket ∧ busySocket.descriptor.Resumes ∧
      (busy.send .v4 [0x45] far).1 = some (.error (.system 113)) ∧
      ∃ made now, (busy.send .v4 [0x45] far).2.socket .v4 = some now ∧
        Sends [0x45] far busySocket.descriptor now.descriptor made (busy.send .v4 [0x45] far).1 := by
  have found : busy.socket .v4 = some busySocket := rfl
  have resumes : busySocket.descriptor.Resumes :=
    Descriptor.resumes_opened (by simp [Descriptor.wouldBlock]) [] []
  obtain ⟨made, now, held, sends, returns, _⟩ := send_retriesOnce found [0x45] far
  refine ⟨found, resumes, ?_, made, now, held, sends⟩
  exact (sends.error _ (returns resumes)).mpr ⟨113, rfl, .inr ⟨by decide, rfl⟩⟩

end Kernel

end IpTunnel
