import IpTunnel.Proofs.CaptureFile

namespace IpTunnel.Capture

namespace Recorder

def Accepts (recorder : Recorder) (clock : Clock) (packet : Bytes) : Prop :=
  packet ≠ [] ∧ 0 ≤ clock.seconds ∧ recorder.queue.length < 100

def Overflows (recorder : Recorder) (clock : Clock) (packet : Bytes) : Prop :=
  packet ≠ [] ∧ 0 ≤ clock.seconds ∧ 100 ≤ recorder.queue.length

instance (recorder : Recorder) (clock : Clock) (packet : Bytes) : Decidable (recorder.Accepts clock packet) :=
  inferInstanceAs (Decidable (_ ∧ _ ∧ _))

instance (recorder : Recorder) (clock : Clock) (packet : Bytes) : Decidable (recorder.Overflows clock packet) :=
  inferInstanceAs (Decidable (_ ∧ _ ∧ _))

variable {recorder : Recorder} {clock : Clock} {packet : Bytes}

theorem Accepts.not_overflows (accepts : recorder.Accepts clock packet) : ¬ recorder.Overflows clock packet :=
  fun overflows => Nat.not_lt.mpr overflows.2.2 accepts.2.2

theorem Overflows.not_accepts (overflows : recorder.Overflows clock packet) : ¬ recorder.Accepts clock packet :=
  fun accepts => accepts.not_overflows overflows

theorem not_accepts_of_unfit (unfit : packet = [] ∨ clock.seconds < 0) : ¬ recorder.Accepts clock packet := by
  rintro ⟨something, known, _⟩
  exact unfit.elim something (Int.not_lt.mpr known)

theorem not_overflows_of_unfit (unfit : packet = [] ∨ clock.seconds < 0) : ¬ recorder.Overflows clock packet := by
  rintro ⟨something, known, _⟩
  exact unfit.elim something (Int.not_lt.mpr known)

end Recorder

inductive Sent (sender : Sender) (clock : Clock) (packet : Bytes) (recorder : Recorder) : Sending → Prop where
  | empty (nothing : packet = []) : Sent sender clock packet recorder ⟨recorder, sender, []⟩
  | early (something : packet ≠ []) (early : clock.seconds < 0) :
      Sent sender clock packet recorder ⟨recorder, sender, [.clockBeforeEpoch]⟩
  | queued (accepts : recorder.Accepts clock packet) :
      Sent sender clock packet recorder
        ⟨⟨recorder.file, recorder.queue ++ [(Stamped.mk clock packet).record]⟩, sender, []⟩
  | lost (overflows : recorder.Overflows clock packet) :
      Sent sender clock packet recorder ⟨recorder, ⟨true⟩, if sender.lossReported then [] else [.captureFull]⟩

theorem send_sent (sender : Sender) (clock : Clock) (packet : Bytes) (recorder : Recorder) :
    Sent sender clock packet recorder (sender.send clock packet recorder) := by
  unfold Sender.send
  by_cases nothing : packet = []
  · rw [if_pos nothing]
    exact .empty nothing
  · rw [if_neg nothing]
    by_cases early : clock.seconds < 0
    · rw [if_pos early]
      exact .early nothing early
    · rw [if_neg early]
      have known := Int.not_lt.mp early
      by_cases room : recorder.queue.length < queueLimit
      · rw [if_pos room]
        exact .queued ⟨nothing, known, room⟩
      · rw [if_neg room]
        exact .lost ⟨nothing, known, Nat.not_lt.mp room⟩

namespace Session

variable {session : Session} {index : Nat} {clock : Clock} {packet : Bytes}

def accepted? (session : Session) : Action → Option Stamped
  | .writeNext _ => none
  | .send index clock packet =>
    if index < session.senders.length ∧ session.recorder.Accepts clock packet then some ⟨clock, packet⟩ else none

def accepted (session : Session) : List Action → List Stamped
  | [] => []
  | action :: rest => (session.accepted? action).toList ++ (session.act action).accepted rest

def losesNow (session : Session) (index : Nat) : Action → Bool
  | .writeNext _ => false
  | .send sender clock packet => sender = index ∧ session.recorder.Overflows clock packet

-- Whether a packet of this sender finds the queue full in the course of these actions.
def loses (session : Session) (index : Nat) : List Action → Bool
  | [] => false
  | action :: rest => session.losesNow index action || (session.act action).loses index rest

theorem act_present {sender : Sender} (present : session.senders[index]? = some sender) :
    session.act (.send index clock packet) =
      ⟨(sender.send clock packet session.recorder).recorder,
        session.senders.set index (sender.send clock packet session.recorder).sender,
        session.notices ++ (sender.send clock packet session.recorder).notices⟩ := by
  rw [act, present]

theorem act_absent (absent : session.senders[index]? = none) : session.act (.send index clock packet) = session := by
  rw [act, absent]

theorem run_append (session : Session) (first second : List Action) :
    session.run (first ++ second) = (session.run first).run second := List.foldl_append

-- What the writer has written and what still waits for it; the writer's own steps leave it as it is.
theorem act_content (session : Session) {action : Action} (writes : ∀ fault, action ≠ .writeNext (some fault)) :
    (session.act action).recorder.drain.file =
      session.recorder.drain.file ++ (session.accepted? action).toList.flatMap Stamped.record := by
  cases action with
  | writeNext fault =>
    cases fault with
    | some fault => exact absurd rfl (writes fault)
    | none =>
      obtain ⟨⟨file, queue⟩, senders, notices⟩ := session
      cases queue <;> simp [act, accepted?, Recorder.writeNext, Recorder.drain]
  | send index clock packet =>
    cases found : session.senders[index]? with
    | none =>
      have outside : ¬ index < session.senders.length := Nat.not_lt.mpr (List.getElem?_eq_none_iff.mp found)
      rw [act_absent found, accepted?, if_neg fun both => outside both.1]
      exact (List.append_nil _).symm
    | some sender =>
      obtain ⟨inside, _⟩ := List.getElem?_eq_some_iff.mp found
      rw [act_present found, accepted?]
      have sent := send_sent sender clock packet session.recorder
      generalize sender.send clock packet session.recorder = sending at sent
      cases sent with
      | empty nothing =>
        rw [if_neg fun both => Recorder.not_accepts_of_unfit (.inl nothing) both.2]
        exact (List.append_nil _).symm
      | early something early =>
        rw [if_neg fun both => Recorder.not_accepts_of_unfit (.inr early) both.2]
        exact (List.append_nil _).symm
      | queued accepts =>
        rw [if_pos ⟨inside, accepts⟩]
        simp [Recorder.drain]
      | lost overflows =>
        have full : ¬ (index < session.senders.length ∧ session.recorder.Accepts clock packet) :=
          fun both => overflows.not_accepts both.2
        rw [if_neg full]
        exact (List.append_nil _).symm

theorem run_content (session : Session) {actions : List Action}
    (writes : ∀ fault, .writeNext (some fault) ∉ actions) :
    (session.run actions).recorder.drain.file =
      session.recorder.drain.file ++ (session.accepted actions).flatMap Stamped.record := by
  induction actions generalizing session with
  | nil => exact (List.append_nil _).symm
  | cons action rest ih =>
    have first : ∀ fault, action ≠ .writeNext (some fault) :=
      fun fault same => writes fault (same ▸ List.mem_cons_self ..)
    refine (ih (session.act action) fun fault member => writes fault (List.mem_cons_of_mem _ member)).trans ?_
    rw [act_content session first, accepted, List.flatMap_append, List.append_assoc]

theorem act_file (session : Session) (action : Action) :
    session.recorder.file <+: (session.act action).recorder.file := by
  cases action with
  | writeNext fault =>
    obtain ⟨⟨file, queue⟩, senders, notices⟩ := session
    cases queue with
    | nil => exact List.prefix_refl _
    | cons record rest =>
      cases fault with
      | none => exact List.prefix_append _ _
      | some fault => exact List.prefix_append _ _
  | send index clock packet =>
    cases found : session.senders[index]? with
    | none =>
      exact ⟨[], by rw [act_absent found, List.append_nil]⟩
    | some sender =>
      rw [act_present found]
      have sent := send_sent sender clock packet session.recorder
      generalize sender.send clock packet session.recorder = sending at sent
      cases sent <;> exact List.prefix_refl _

-- What is in the file stays there, also behind a write that fails.
theorem run_file (session : Session) (actions : List Action) :
    session.recorder.file <+: (session.run actions).recorder.file := by
  induction actions generalizing session with
  | nil => exact List.prefix_refl _
  | cons action rest ih => exact (session.act_file action).trans (ih (session.act action))

-- Once nothing is sent any more, the writer needs one step for each record.
theorem run_writer {session : Session} {steps : Nat} (enough : session.recorder.queue.length ≤ steps) :
    (session.run (List.replicate steps (.writeNext none))).recorder = session.recorder.drain := by
  induction steps generalizing session with
  | zero =>
    have empty := List.eq_nil_of_length_eq_zero (Nat.le_zero.mp enough)
    obtain ⟨⟨file, queue⟩, senders, notices⟩ := session
    obtain rfl : queue = [] := empty
    simp [run, Recorder.drain]
  | succ steps ih =>
    obtain ⟨⟨file, queue⟩, senders, notices⟩ := session
    cases queue with
    | nil => exact ih (Nat.zero_le steps)
    | cons first rest =>
      let behind : Session := ⟨⟨file ++ first, rest⟩, senders, notices ++ []⟩
      have later : (behind.run (List.replicate steps (.writeNext none))).recorder = behind.recorder.drain :=
        ih (Nat.le_of_succ_le_succ enough)
      refine later.trans ?_
      simp [behind, Recorder.drain]

-- A sender remembers that it has told of a loss; other senders' losses are none of its business.
theorem act_reported {sender : Sender} (action : Action) (present : session.senders[index]? = some sender) :
    (session.act action).senders[index]? = some ⟨sender.lossReported || session.losesNow index action⟩ := by
  cases action with
  | writeNext fault => exact present.trans (by rw [losesNow, Bool.or_false])
  | send other clock packet =>
    by_cases same : other = index
    · subst same
      obtain ⟨inside, _⟩ := List.getElem?_eq_some_iff.mp present
      rw [act_present present]
      simp only [List.getElem?_set_self inside, losesNow, true_and]
      have sent := send_sent sender clock packet session.recorder
      generalize sender.send clock packet session.recorder = sending at sent
      cases sent with
      | empty nothing => simp [Recorder.not_overflows_of_unfit (.inl nothing)]
      | early something early => simp [Recorder.not_overflows_of_unfit (.inr early)]
      | queued accepts => simp [accepts.not_overflows]
      | lost overflows => simp [overflows]
    · have aside : session.losesNow index (.send other clock packet) = false := by simp [losesNow, same]
      rw [aside, Bool.or_false]
      cases found : session.senders[other]? with
      | none => rwa [act_absent found]
      | some stranger =>
        rw [act_present found]
        simp only [List.getElem?_set_ne same]
        exact present

theorem run_reported {sender : Sender} (actions : List Action) (present : session.senders[index]? = some sender) :
    (session.run actions).senders[index]? = some ⟨sender.lossReported || session.loses index actions⟩ := by
  induction actions generalizing session sender with
  | nil => exact present.trans (by rw [loses, Bool.or_false])
  | cons action rest ih =>
    refine (ih (act_reported action present)).trans ?_
    rw [loses, Bool.or_assoc]

end Session

structure Decided (before after : Session) (clock : Clock) (packet : Bytes) (lossTold : Bool) : Prop where
  accepted : before.recorder.Accepts clock packet →
    after.recorder = ⟨before.recorder.file, before.recorder.queue ++ [(Stamped.mk clock packet).record]⟩
  rejected : ¬ before.recorder.Accepts clock packet → after.recorder = before.recorder
  notices : after.notices = before.notices ++
    if before.recorder.Overflows clock packet then if lossTold then [] else [.captureFull]
    else if packet ≠ [] ∧ clock.seconds < 0 then [.clockBeforeEpoch] else []

theorem act_decided {session : Session} {sender : Sender} {index : Nat} (clock : Clock) (packet : Bytes)
    (present : session.senders[index]? = some sender) :
    Decided session (session.act (.send index clock packet)) clock packet sender.lossReported := by
  rw [Session.act_present present]
  have sent := send_sent sender clock packet session.recorder
  generalize sender.send clock packet session.recorder = sending at sent
  cases sent with
  | empty nothing =>
    refine ⟨fun accepts => absurd nothing accepts.1, fun _ => rfl, ?_⟩
    simp [Recorder.Overflows, nothing]
  | early something early =>
    refine ⟨fun accepts => absurd accepts (Recorder.not_accepts_of_unfit (.inr early)), fun _ => rfl, ?_⟩
    simp [Recorder.not_overflows_of_unfit (.inr early), something, early]
  | queued accepts =>
    refine ⟨fun _ => rfl, fun rejected => absurd accepts rejected, ?_⟩
    have known : ¬ clock.seconds < 0 := Int.not_lt.mpr accepts.2.1
    simp [accepts.not_overflows, known]
  | lost overflows =>
    refine ⟨fun accepts => absurd accepts overflows.not_accepts, fun _ => rfl, ?_⟩
    simp [overflows]

-- A capture whose senders all started afresh, seen from its end.
structure Kept (senders : Nat) (actions : List Action) (file : Bytes) : Prop where
  -- With nobody left to send, the writer comes to an end and leaves this file.
  finished : ∀ steps, ((Session.start senders).run actions).recorder.queue.length ≤ steps →
    ((Session.start senders).run (actions ++ List.replicate steps (.writeNext none))).recorder = ⟨file, []⟩
  flushed : ∀ flushing, (((Session.start senders).run actions).finish flushing).recorder = ⟨file, []⟩
  header : file.take 24 =
    [0xA1, 0xB2, 0x3C, 0x4D, 0, 2, 0, 4, 0, 0, 0, 0, 0, 0, 0, 0, 0, 0, 0x08, 0x00, 0, 0, 0, 101]
  -- A record that cannot be written whole would leave the reader out of step.
  recovered : (∀ fault, .writeNext (some fault) ∉ actions) →
    file = fileHeader ++ ((Session.start senders).accepted actions).flatMap Stamped.record ∧
      readFile? file = some (((Session.start senders).accepted actions).map Stamped.sample)
  decided : ∀ earlier index clock packet later, actions = earlier ++ .send index clock packet :: later →
    index < senders →
    Decided ((Session.start senders).run earlier)
      (((Session.start senders).run earlier).act (.send index clock packet)) clock packet
      ((Session.start senders).loses index earlier)

theorem accepted_mem {session : Session} {actions : List Action} {item : Stamped}
    (member : item ∈ session.accepted actions) : ∃ index, .send index item.clock item.packet ∈ actions := by
  induction actions generalizing session with
  | nil => cases member
  | cons action rest ih =>
    rcases List.mem_append.mp member with now | later
    · cases action with
      | writeNext fault => cases now
      | send index clock packet =>
        simp only [Session.accepted?] at now
        split at now
        · cases List.mem_singleton.mp now
          exact ⟨index, List.mem_cons_self ..⟩
        · cases now
    · obtain ⟨index, among⟩ := ih later
      exact ⟨index, List.mem_cons_of_mem _ among⟩

theorem capture_kept (senders : Nat) (actions : List Action)
    (short : ∀ index clock packet, .send index clock packet ∈ actions → packet.length < 2 ^ 32) :
    Kept senders actions ((Session.start senders).run actions).recorder.drain.file := by
  refine ⟨?_, ?_, ?_, ?_, ?_⟩
  · intro steps enough
    rw [Session.run_append, Session.run_writer enough]
    rfl
  · intro flushing
    exact Session.run_writer (Nat.le_refl _)
  · obtain ⟨records, grown⟩ := (Session.start senders).run_file actions
    change (((Session.start senders).run actions).recorder.file ++ _).take 24 = _
    rw [← grown]
    rfl
  · intro writes
    have content := (Session.start senders).run_content writes
    have fresh : (Session.start senders).recorder.drain.file = fileHeader := List.append_nil _
    rw [fresh] at content
    refine ⟨content, ?_⟩
    rw [content, readFile?_header]
    apply readRecords?_records
    intro item member
    obtain ⟨index, among⟩ := accepted_mem member
    exact short index item.clock item.packet among
  · intro earlier index clock packet later place inside
    have present : (Session.start senders).senders[index]? = some .fresh :=
      List.getElem?_replicate_of_lt inside
    exact act_decided clock packet (Session.run_reported earlier present)

-- Two senders, one of which first has a clock that tells no time and later one past the largest second.
theorem capture_kept_twoSenders :
    let actions : List Action := [.send 0 ⟨1700000000, 500⟩ [0x45, 0x00], .send 1 ⟨-1, 0⟩ [0x60], .writeNext none,
      .send 1 ⟨2 ^ 32 + 7, 1⟩ [0x60]]
    (∀ index clock packet, .send index clock packet ∈ actions → packet.length < 2 ^ 32) ∧
      (∀ fault, .writeNext (some fault) ∉ actions) ∧
      Kept 2 actions ((Session.start 2).run actions).recorder.drain.file ∧
      ((Session.start 2).accepted actions).map Stamped.sample =
        [⟨1700000000, 500, 2, [0x45, 0x00]⟩, ⟨7, 1, 1, [0x60]⟩] := by
  intro actions
  have short : ∀ index clock packet, .send index clock packet ∈ actions → packet.length < 2 ^ 32 := by
    intro index clock packet member
    simp only [actions, List.mem_cons, List.not_mem_nil, or_false, Action.send.injEq, reduceCtorEq, false_or] at member
    rcases member with ⟨_, _, rfl⟩ | ⟨_, _, rfl⟩ | ⟨_, _, rfl⟩ <;> decide
  have writes : ∀ fault, .writeNext (some fault) ∉ actions := by
    intro fault
    simp [actions]
  exact ⟨short, writes, capture_kept 2 actions short, by decide⟩

end IpTunnel.Capture
