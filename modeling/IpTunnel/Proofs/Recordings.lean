import IpTunnel.Proofs.CaptureSession

namespace IpTunnel.Capture

namespace Recorder

-- The writer takes a record off the queue with every write, whatever becomes of it.
theorem queue_write (recorder : Recorder) (faults : List (Option Fault)) :
    (recorder.write faults).recorder.queue = recorder.queue.drop faults.length := by
  induction faults generalizing recorder with
  | nil => rfl
  | cons fault rest ih =>
    have next : (recorder.writeNext fault).recorder.queue = recorder.queue.drop 1 := by
      obtain ⟨file, queue⟩ := recorder
      cases queue <;> cases fault <;> rfl
    refine (ih (recorder.writeNext fault).recorder).trans ?_
    rw [next, List.drop_drop, List.length_cons, Nat.add_comm]

theorem content_write {faults : List (Option Fault)} (recorder : Recorder)
    (written : ∀ fault, some fault ∉ faults) :
    (recorder.write faults).recorder.drain.file = recorder.drain.file := by
  induction faults generalizing recorder with
  | nil => rfl
  | cons fault rest ih =>
    have whole : fault = none := by
      cases fault with
      | none => rfl
      | some fault => exact absurd (List.mem_cons_self ..) (written fault)
    have next : (recorder.writeNext fault).recorder.drain.file = recorder.drain.file := by
      subst whole
      obtain ⟨file, queue⟩ := recorder
      cases queue with
      | nil => rfl
      | cons record rest => exact List.append_assoc ..
    exact (ih _ fun fault member => written fault (List.mem_cons_of_mem _ member)).trans next

end Recorder

namespace Recording

def handOverAll (packets : List Bytes) (recording : Recording) : Recording :=
  packets.foldl (fun recording packet => (recording.handOver packet).1) recording

-- The packets, each with the time of day that is read for it.
def stamps (packets : List Bytes) (recording : Recording) : List Stamped :=
  (packets.zipIdx recording.handed).map fun (packet, number) => ⟨(recording.turns number).clock, packet⟩

def writes (packets : List Bytes) (recording : Recording) : List (Option Fault) :=
  (packets.zipIdx recording.handed).flatMap fun (_, number) => (recording.turns number).writes

def awaiting (recording : Recording) : Recorder := (recording.recorder.write recording.turn.writes).recorder

def accepted : List Bytes → Recording → List Stamped
  | [], _ => []
  | packet :: rest, recording =>
    (if recording.awaiting.Accepts recording.turn.clock packet then [⟨recording.turn.clock, packet⟩] else []) ++
      accepted rest (recording.handOver packet).1

def fills : List Bytes → Recording → Bool
  | [], _ => false
  | packet :: rest, recording =>
    decide (recording.awaiting.Overflows recording.turn.clock packet) || fills rest (recording.handOver packet).1

variable {recording : Recording} {packets : List Bytes}

theorem handOverAll_append (first second : List Bytes) (recording : Recording) :
    recording.handOverAll (first ++ second) = (recording.handOverAll first).handOverAll second := List.foldl_append

theorem packets_stamps (packets : List Bytes) (recording : Recording) :
    (recording.stamps packets).map Stamped.packet = packets := by
  simp [stamps, Function.comp_def, List.zipIdx_map_fst]

theorem stamps_cons (packet : Bytes) (rest : List Bytes) (recording : Recording) :
    recording.stamps (packet :: rest) = ⟨recording.turn.clock, packet⟩ :: (recording.handOver packet).1.stamps rest :=
  rfl

theorem writes_cons (packet : Bytes) (rest : List Bytes) (recording : Recording) :
    recording.writes (packet :: rest) = recording.turn.writes ++ (recording.handOver packet).1.writes rest := rfl

inductive Handing (packet : Bytes) (recording : Recording) : Recording → Prop where
  | accepted (accepts : recording.awaiting.Accepts recording.turn.clock packet)
      (recorder : after.recorder = ⟨recording.awaiting.file,
        recording.awaiting.queue ++ [(Stamped.mk recording.turn.clock packet).record]⟩)
      (sender : after.sender = recording.sender) : Handing packet recording after
  | lost (overflows : recording.awaiting.Overflows recording.turn.clock packet)
      (recorder : after.recorder = recording.awaiting) (sender : after.sender = ⟨true⟩) :
      Handing packet recording after
  | skipped (unfit : packet = [] ∨ recording.turn.clock.seconds < 0) (recorder : after.recorder = recording.awaiting)
      (sender : after.sender = recording.sender) : Handing packet recording after

theorem handing (packet : Bytes) (recording : Recording) :
    Handing packet recording (recording.handOver packet).1 := by
  have sent := send_sent recording.sender recording.turn.clock packet recording.awaiting
  have recorder : (recording.handOver packet).1.recorder =
      (recording.sender.send recording.turn.clock packet recording.awaiting).recorder := rfl
  have sender : (recording.handOver packet).1.sender =
      (recording.sender.send recording.turn.clock packet recording.awaiting).sender := rfl
  generalize (recording.handOver packet).1 = after at recorder sender
  generalize recording.sender.send recording.turn.clock packet recording.awaiting = sending at sent recorder sender
  cases sent with
  | empty nothing => exact .skipped (.inl nothing) recorder sender
  | early something early => exact .skipped (.inr early) recorder sender
  | queued accepts => exact .accepted accepts recorder sender
  | lost overflows => exact .lost overflows recorder sender

-- The sender remembers whether a packet has found the queue full.
theorem reported_handOverAll (packets : List Bytes) (recording : Recording) :
    (recording.handOverAll packets).sender.lossReported =
      (recording.sender.lossReported || recording.fills packets) := by
  induction packets generalizing recording with
  | nil => exact (Bool.or_false _).symm
  | cons packet rest ih =>
    refine (ih (recording.handOver packet).1).trans ?_
    rw [fills]
    cases recording.handing packet with
    | accepted accepts recorder sender => simp [sender, accepts.not_overflows]
    | lost overflows recorder sender => simp [sender, overflows]
    | skipped unfit recorder sender => simp [sender, Recorder.not_overflows_of_unfit unfit]

theorem content_handOverAll (written : ∀ fault, some fault ∉ recording.writes packets) :
    (recording.handOverAll packets).recorder.drain.file =
      recording.recorder.drain.file ++ (recording.accepted packets).flatMap Stamped.record := by
  induction packets generalizing recording with
  | nil => exact (List.append_nil _).symm
  | cons packet rest ih =>
    simp only [writes_cons, List.mem_append, not_or] at written
    have before : recording.awaiting.drain.file = recording.recorder.drain.file :=
      recording.recorder.content_write fun fault => (written fault).1
    have step : (recording.handOver packet).1.recorder.drain.file = recording.recorder.drain.file ++
        (if recording.awaiting.Accepts recording.turn.clock packet then
          [Stamped.mk recording.turn.clock packet] else []).flatMap Stamped.record := by
      cases recording.handing packet with
      | accepted accepts recorder sender =>
        rw [recorder, if_pos accepts, ← before]
        simp [Recorder.drain]
      | lost overflows recorder sender =>
        rw [recorder, if_neg overflows.not_accepts, before]
        exact (List.append_nil _).symm
      | skipped unfit recorder sender =>
        rw [recorder, if_neg (Recorder.not_accepts_of_unfit unfit), before]
        exact (List.append_nil _).symm
    refine (ih fun fault => (written fault).2).trans ?_
    rw [step, accepted, List.flatMap_append, List.append_assoc]

-- Nothing is left out but empty packets, as long as the queue does not fill.
theorem accepted_of_room (known : ∀ item ∈ recording.stamps packets, 0 ≤ item.clock.seconds)
    (roomy : recording.fills packets = false) :
    recording.accepted packets = (recording.stamps packets).filter (·.packet ≠ []) := by
  induction packets generalizing recording with
  | nil => rfl
  | cons packet rest ih =>
    rw [stamps_cons] at known ⊢
    rw [fills, Bool.or_eq_false_iff] at roomy
    have timely : 0 ≤ recording.turn.clock.seconds := known _ (List.mem_cons_self ..)
    have later := ih (fun item member => known item (List.mem_cons_of_mem _ member)) roomy.2
    rw [accepted, later, List.filter_cons]
    by_cases nothing : packet = []
    · rw [if_neg (Recorder.not_accepts_of_unfit (.inl nothing))]
      simp [nothing]
    · have room : recording.awaiting.queue.length < 100 := by
        apply Nat.lt_of_not_le
        intro full
        exact of_decide_eq_false roomy.1 ⟨nothing, timely, full⟩
      have accepts : recording.awaiting.Accepts recording.turn.clock packet := ⟨nothing, timely, room⟩
      simp [accepts, nothing]

theorem length_awaiting (recording : Recording) :
    recording.awaiting.queue.length = recording.recorder.queue.length - recording.turn.writes.length := by
  rw [awaiting, Recorder.queue_write, List.length_drop]

theorem length_handOver (packet : Bytes) (recording : Recording) :
    (recording.handOver packet).1.recorder.queue.length ≤
      recording.awaiting.queue.length + if packet = [] then 0 else 1 := by
  cases recording.handing packet with
  | accepted accepts recorder sender =>
    rw [recorder, if_neg accepts.1, List.length_append, List.length_singleton]
  | lost overflows recorder sender =>
    rw [recorder]
    exact Nat.le_add_right _ _
  | skipped unfit recorder sender =>
    rw [recorder]
    exact Nat.le_add_right _ _

-- There is room for a hundred records, however late the writer is.
theorem fills_few (few : recording.recorder.queue.length + (packets.filter (· ≠ [])).length ≤ 100) :
    recording.fills packets = false := by
  induction packets generalizing recording with
  | nil => rfl
  | cons packet rest ih =>
    have before := recording.length_awaiting
    have after := recording.length_handOver packet
    rw [fills, Bool.or_eq_false_iff]
    by_cases nothing : packet = []
    · rw [if_pos nothing] at after
      rw [List.filter_cons_of_neg (by simpa using nothing)] at few
      refine ⟨decide_eq_false fun overflows => overflows.1 nothing, ih ?_⟩
      omega
    · rw [if_neg nothing] at after
      rw [List.filter_cons_of_pos (by simpa using nothing), List.length_cons] at few
      refine ⟨decide_eq_false ?_, ih ?_⟩
      · rintro ⟨_, _, full⟩
        omega
      · omega

-- A writer that keeps up with the packets has room for any number of them.
theorem fills_prompt (room : recording.recorder.queue.length ≤ 100)
    (prompt : ∀ number, (recording.turns number).writes ≠ []) : recording.fills packets = false := by
  induction packets generalizing recording with
  | nil => rfl
  | cons packet rest ih =>
    have before := recording.length_awaiting
    have after := recording.length_handOver packet
    have once : 0 < recording.turn.writes.length := List.length_pos_iff.mpr (prompt _)
    have one : (if packet = [] then 0 else 1) ≤ 1 := by split <;> decide
    rw [fills, Bool.or_eq_false_iff]
    refine ⟨decide_eq_false ?_, ih ?_ prompt⟩
    · rintro ⟨_, _, full⟩
      omega
    · omega

end Recording

end IpTunnel.Capture
