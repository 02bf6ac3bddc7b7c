import IpTunnel.Proofs.Recordings
import IpTunnel.Proofs.Standing

namespace IpTunnel

-- The frames of a trace that cross the tunnel device. Those read are given apart, since a trace has only
-- their lengths.
def crossed : List Entry → List Bytes → List Bytes
  | .read .tunnel (.ok _) :: entries, frame :: frames => frame :: crossed entries frames
  | .write frame _ :: entries, frames => frame :: crossed entries frames
  | _ :: entries, frames => crossed entries frames
  | [], _ => []

def Setup.packets (setup : Setup) (frames : List Bytes) : List Bytes :=
  frames.filterMap (stripFraming? setup.framingLength)

theorem Setup.packets_append (setup : Setup) (first second : List Bytes) :
    setup.packets (first ++ second) = setup.packets first ++ setup.packets second := List.filterMap_append

-- The packet in a frame, if there is anything behind the framing.
def Setup.carried? (setup : Setup) (frame : Bytes) : Option Bytes :=
  if setup.framingLength < frame.length then some (frame.drop setup.framingLength) else none

theorem Setup.filter_packets (setup : Setup) (frames : List Bytes) :
    (setup.packets frames).filter (· ≠ []) = frames.filterMap setup.carried? := by
  rw [packets, List.filter_filterMap]
  congr 1
  funext frame
  unfold stripFraming? carried?
  by_cases more : setup.framingLength < frame.length
  · have something : frame.drop setup.framingLength ≠ [] := by
      intro nothing
      exact Nat.not_le.mpr more (List.drop_eq_nil_iff.mp nothing)
    simp [more, Nat.le_of_lt more, something]
  · have nothing : frame.drop setup.framingLength = [] := List.drop_eq_nil_iff.mpr (Nat.not_lt.mp more)
    by_cases whole : setup.framingLength ≤ frame.length
    · simp [more, whole, nothing]
    · simp [more, whole]

namespace Script

def recorded (packets : List Bytes) (script : Script) : Option Capture.Recording :=
  script.recording.map (·.handOverAll packets)

theorem recorded_nil (script : Script) : script.recorded [] = script.recording := by
  unfold recorded
  cases script.recording <;> rfl

theorem recorded_append {first : List Bytes} {script after : Script} (handed : after.recording = script.recorded first)
    (second : List Bytes) : after.recorded second = script.recorded (first ++ second) := by
  unfold recorded at handed ⊢
  rw [handed, Option.map_map]
  congr 1
  funext recording
  exact (recording.handOverAll_append first second).symm

end Script

def Deed.frame? : Deed → Option Bytes
  | .write frame => some frame
  | _ => none

theorem frames_loud (deeds : List Deed) : (loud deeds).filterMap Deed.frame? = deeds.filterMap Deed.frame? := by
  rw [loud, List.filterMap_filter]
  congr 1
  funext deed
  cases deed <;> rfl

-- Deeds that hand these packets to the capture, all of them before anything that can fail.
inductive Handed : List Deed → List Bytes → Prop where
  | rest (silent : ∀ packet, Deed.capture packet ∉ deeds) : Handed deeds []
  | say (later : Handed deeds packets) : Handed (.say notice :: deeds) packets
  | capture (later : Handed deeds packets) : Handed (.capture packet :: deeds) (packet :: packets)

namespace Script

theorem capture_recording (packet : Bytes) (script : Script) :
    (script.capture packet).recording = script.recorded [packet] := by
  unfold capture recorded
  cases attached : script.recording with
  | none => exact attached
  | some recording => rfl

theorem act_silent {deeds : List Deed} (silent : ∀ packet, Deed.capture packet ∉ deeds) (script : Script) :
    (Unbuffered.act deeds script).1.recording = script.recording := by
  induction deeds generalizing script with
  | nil => rfl
  | cons deed rest ih =>
    have behind := ih fun packet member => silent packet (List.mem_cons_of_mem _ member)
    cases deed with
    | say notice => exact behind (script.say notice)
    | capture packet => exact absurd (List.mem_cons_self ..) (silent packet)
    | send family packet peer =>
      have sent : (Host.send family packet peer script).2.recording = script.recording := by cases family <;> rfl
      rw [Unbuffered.act_send]
      generalize Host.send family packet peer script = answer at sent
      rcases answer with ⟨_ | _ | _, after⟩
      · exact sent
      · exact sent
      · exact (behind after).trans sent
    | write frame =>
      have written : (Host.write frame script).2.recording = script.recording := rfl
      rw [Unbuffered.act_write]
      generalize Host.write frame script = answer at written
      rcases answer with ⟨_ | _ | _, after⟩
      · exact written
      · exact written
      · exact (behind after).trans written
    | fail cause => rfl
    | overrun => rfl

theorem act_handed {deeds : List Deed} (handed : Handed deeds packets) (script : Script) :
    (Unbuffered.act deeds script).1.recording = script.recorded packets := by
  induction handed generalizing script with
  | rest silent => exact (act_silent silent script).trans script.recorded_nil.symm
  | say later ih => exact ih (script.say _)
  | capture later ih => exact (ih (script.capture _)).trans (recorded_append (capture_recording _ script) _)

end Script

namespace Handed

variable (setup : Setup)

theorem nothing : Handed [] [] := .rest fun _ => List.not_mem_nil

theorem ofPacket (packet : Bytes) : Handed (Plan.ofPacket setup packet) [] := by
  apply Handed.rest
  intro other member
  unfold Plan.ofPacket at member
  split at member
  · cases List.mem_singleton.mp member
  · rcases List.mem_append.mp member with said | member
    · obtain ⟨_, _, same⟩ := List.mem_map.mp said
      cases same
    · split at member
      · cases List.mem_singleton.mp member
      · cases member
      · split at member
        · simp at member
        · cases List.mem_singleton.mp member

theorem ofFrame (frame : Bytes) : Handed (Plan.ofFrame setup frame) (setup.packets [frame]) := by
  unfold Plan.ofFrame Setup.packets
  apply Handed.say
  cases stripped : stripFraming? setup.framingLength frame with
  | none => simpa [stripped] using nothing.say
  | some packet => simpa [stripped] using (ofPacket setup packet).capture

theorem ofDatagram (family : Family) (datagram : Bytes) :
    Handed (Deed.ofDatagram setup family datagram)
      (setup.packets ((Deed.ofDatagram setup family datagram).filterMap Deed.frame?)) := by
  unfold Deed.ofDatagram Setup.packets
  split
  · exact nothing.say
  · split
    · refine .say ?_
      simp only [List.filterMap_cons, List.filterMap_nil, Deed.frame?, strip_enframe]
      exact .capture (.rest (by simp))
    · exact nothing.say.say

theorem ofReport (family : Family) (error : ExtendedError) (fragment : Bytes) :
    Handed (Deed.ofReport setup family error fragment)
      (setup.packets ((Deed.ofReport setup family error fragment).filterMap Deed.frame?)) := by
  unfold Deed.ofReport Setup.packets
  split
  · exact nothing.say
  · split
    · exact nothing.say.say
    · split
      · exact nothing.say.say
      · refine .say ?_
        simp only [List.filterMap_cons, List.filterMap_nil, Deed.frame?, strip_enframe]
        exact .capture (.rest (by simp))

theorem ofSocket (family : Family) (event : Option (Except IoError Delivery)) :
    Handed (Deed.ofSocket setup family event)
      (setup.packets ((Deed.ofSocket setup family event).filterMap Deed.frame?)) := by
  cases event with
  | none => exact nothing
  | some outcome =>
    cases outcome with
    | error cause => exact .rest (by simp [Deed.ofSocket, Deed.ofFailure])
    | ok delivery =>
      cases delivery with
      | datagram datagram => exact ofDatagram setup family datagram
      | report error fragment => exact ofReport setup family error fragment

theorem ofTunnel (event : Option (Scheduled Bytes)) :
    Handed (Deed.ofTunnel setup (event.map Script.frameOf)) (setup.packets (event.bind Scheduled.frame?).toList) := by
  cases event with
  | none => exact nothing
  | some event =>
    simp only [Option.map_some, Option.bind_some, Script.frameOf, Scheduled.frame?]
    cases event.outcome with
    | error cause => exact .rest (by simp [Except.map, Deed.ofTunnel, Deed.ofFailure])
    | ok data => exact ofFrame setup (data.take bufferLength)

end Handed

-- Whatever becomes of a write, its frame is the one that the event called for.
theorem frames_ofSocket {setup : Setup} {family : Family} {event : Option (Scheduled Delivery)}
    (performed : Performed (Deed.ofSocket setup family (event.map Script.deliveryOf)) entries progress) :
    (Deed.ofSocket setup family (event.map Script.deliveryOf)).filterMap Deed.frame? = writes entries := by
  rw [(fails_ofSocket performed).1, ← frames_loud, loud_ofSocket]
  cases event with
  | none => rfl
  | some event =>
    simp only [Option.map_some, Option.bind_some, Script.deliveryOf, Scheduled.inbound?]
    cases event.outcome with
    | error cause => rfl
    | ok delivery =>
      simp only [Except.map, inboundDeeds, roomLength]
      cases inbound setup family (delivery.cut 2044) <;> rfl

-- Stages of an iteration whose captures can be told from what they write.
def Telling (setup : Setup) (deeds : List Deed) : Prop :=
  ∀ entries progress, Performed deeds entries progress → Handed deeds (setup.packets (writes entries))

theorem Script.act_telling {setup : Setup} {stages : List (List Deed)}
    (telling : ∀ deeds ∈ stages, Telling setup deeds) (script : Script) :
    ∃ entries, (Unbuffered.act stages.flatten script).1.trace = script.trace ++ entries ∧
      (Unbuffered.act stages.flatten script).1.recording = script.recorded (setup.packets (writes entries)) := by
  induction stages generalizing script with
  | nil => exact ⟨[], (List.append_nil _).symm, script.recorded_nil.symm⟩
  | cons deeds others ih =>
    obtain ⟨entries, performed, trace, _⟩ := script.act_performed deeds
    have handed := script.act_handed (telling deeds (List.mem_cons_self ..) entries _ performed)
    rw [List.flatten_cons, Unbuffered.act_append]
    generalize Unbuffered.act deeds script = done at trace handed
    obtain ⟨after, _ | ending⟩ := done
    · obtain ⟨more, grown, later⟩ := ih (fun other member => telling other (List.mem_cons_of_mem _ member)) after
      refine ⟨entries ++ more, ?_, ?_⟩
      · rw [grown, trace, List.append_assoc]
      · rw [later, writes_append, Setup.packets_append]
        exact recorded_append handed _
    · exact ⟨entries, trace, handed⟩

namespace Unbuffered

-- The tunnel's event is dealt with first, and all its deeds leave in the trace is a send.
theorem handle_recording (setup : Setup) (iteration : Iteration) (station : Station Script) :
    ∃ entries, (handle setup iteration.intake station).1.host.trace = station.host.trace ++ entries ∧
      (handle setup iteration.intake station).1.host.recording =
        station.host.recorded (setup.packets ((iteration.tunnel.bind Scheduled.frame?).toList ++ writes entries)) := by
  let stages := [Deed.ofSocket setup .v4 iteration.intake.socket4, Deed.ofSocket setup .v6 iteration.intake.socket6]
  have telling : ∀ deeds ∈ stages, Telling setup deeds := by
    intro deeds member entries progress performed
    simp only [stages, List.mem_cons, List.not_mem_nil, or_false] at member
    rcases member with rfl | rfl
    · rw [← frames_ofSocket performed]
      exact .ofSocket setup .v4 _
    · rw [← frames_ofSocket performed]
      exact .ofSocket setup .v6 _
  have deeds : iteration.intake.deeds setup = Deed.ofTunnel setup iteration.intake.tunnel ++ stages.flatten := by
    simp [stages, Intake.deeds]
  have heeded (packets : List Bytes) : (heed iteration.news station).host.recorded packets =
      station.host.recorded packets := by
    unfold heed
    cases iteration.news with
    | none => rfl
    | some news => cases news <;> rfl
  have untouched := (heed_host iteration.news station).2
  obtain ⟨entries, performed, trace, _⟩ :=
    (heed iteration.news station).host.act_performed (Deed.ofTunnel setup iteration.intake.tunnel)
  have handed : (act (Deed.ofTunnel setup iteration.intake.tunnel) (heed iteration.news station).host).1.recording = _ :=
    Script.act_handed (.ofTunnel setup iteration.tunnel) _
  have silent := (fails_ofTunnel performed).1
  rw [untouched] at trace
  rw [heeded] at handed
  change ∃ entries, (act (iteration.intake.deeds setup) (heed iteration.news station).host).1.trace = _ ∧
    (act (iteration.intake.deeds setup) (heed iteration.news station).host).1.recording = _
  rw [deeds, act_append]
  generalize act (Deed.ofTunnel setup iteration.intake.tunnel) (heed iteration.news station).host = done at trace handed
  obtain ⟨after, _ | ending⟩ := done
  · obtain ⟨more, grown, later⟩ := after.act_telling telling
    refine ⟨entries ++ more, ?_, ?_⟩
    · rw [grown, trace, List.append_assoc]
    · rw [later, writes_append, silent, List.nil_append, Setup.packets_append]
      exact Script.recorded_append handed _
  · refine ⟨entries, trace, ?_⟩
    rw [handed, silent, List.append_nil]

end Unbuffered

def Iteration.crossing (iteration : Iteration) : List Bytes :=
  (iteration.tunnel.bind Scheduled.frame?).toList ++ writes iteration.entries

theorem Iterated.recording {setup : Setup} {before after : Station Script} {iteration : Iteration}
    {progress : Option Ending} (iterated : Iterated setup before iteration after progress)
    (turned : Unbuffered.iterate setup before = (after, progress)) :
    after.host.recording = before.host.recorded (setup.packets iteration.crossing) := by
  obtain ⟨looked, _, ledger, trace, rfl⟩ := iterated.handled turned
  obtain ⟨entries, grown, handed⟩ := Unbuffered.handle_recording setup iteration looked
  have same : iteration.entries = iteration.reads ++ entries := by
    have whole := iterated.trace
    rw [grown, trace, List.append_assoc] at whole
    exact (List.append_cancel_left whole).symm
  have kept : looked.host.recording = before.host.recording := congrArg Ledger.recording ledger
  rw [handed, Script.recorded, kept, Iteration.crossing, same, writes_append, writes_reads, List.nil_append]
  rfl

theorem Halted.recording {setup : Setup} {before after : Station Script} {ending : Ending}
    (halted : Halted setup before after ending) (turned : Unbuffered.iterate setup before = (after, some ending)) :
    after.host.recording = before.host.recording := by
  obtain ⟨moment, onward, ready, handled⟩ | ⟨_, _, _, recording⟩ := Unbuffered.iterate_cases turned
  · exact absurd handled (halted.untaken onward ready)
  · exact recording

namespace Chronicle

variable {setup : Setup} {before after : Run Script} {iterations : List Iteration} {ending : Ending}

theorem recording (chronicle : Chronicle setup before iterations after ending) (sized : before.session.buffers.Sized) :
    after.host.recording = before.host.recorded (setup.packets (iterations.flatMap Iteration.crossing)) := by
  induction chronicle with
  | halt step halted =>
    obtain ⟨turned, _⟩ := Unbuffered.iterate_erased sized step
    exact (halted.recording turned).trans (Script.recorded_nil _).symm
  | last step iterated =>
    obtain ⟨turned, _⟩ := Unbuffered.iterate_erased sized step
    rw [List.flatMap_cons, List.flatMap_nil, List.append_nil]
    exact iterated.recording turned
  | next step iterated rest ih =>
    obtain ⟨turned, kept⟩ := Unbuffered.iterate_erased sized step
    rw [List.flatMap_cons, Setup.packets_append, ih kept]
    exact Script.recorded_append (iterated.recording turned) _

end Chronicle

-- A frame that was read; the trace has its length.
def Entry.hasFrame : Entry → Bool
  | .read .tunnel (.ok _) => true
  | _ => false

theorem crossed_append {first second : List Entry} {frames others : List Bytes}
    (balanced : first.countP Entry.hasFrame = frames.length) :
    crossed (first ++ second) (frames ++ others) = crossed first frames ++ crossed second others := by
  induction first generalizing frames with
  | nil =>
    obtain rfl : frames = [] := List.eq_nil_of_length_eq_zero balanced.symm
    cases second <;> simp [crossed]
  | cons entry rest ih =>
    cases entry with
    | write frame outcome => exact congrArg (frame :: ·) (ih balanced)
    | send family packet peer outcome => exact ih balanced
    | read device outcome =>
      cases device with
      | socket family => exact ih balanced
      | tunnel =>
        cases outcome with
        | error cause => exact ih balanced
        | ok length =>
          rw [List.countP_cons_of_pos rfl] at balanced
          cases frames with
          | nil => cases balanced
          | cons frame frames => exact congrArg (frame :: ·) (ih (Nat.succ.inj balanced))

theorem crossed_unread {entries : List Entry} (unread : ∀ entry ∈ entries, entry.isRead = false) (frames : List Bytes) :
    crossed entries frames = writes entries := by
  induction entries with
  | nil => rfl
  | cons entry rest ih =>
    have later := ih fun other member => unread other (List.mem_cons_of_mem _ member)
    cases entry with
    | read device outcome => cases unread _ (List.mem_cons_self ..)
    | write frame outcome => exact congrArg (frame :: ·) later
    | send family packet peer outcome => exact later

theorem crossed_reads (takings : Takings) :
    crossed takings.reads (takings.tunnel.bind Scheduled.frame?).toList =
        (takings.tunnel.bind Scheduled.frame?).toList ∧
      takings.reads.countP Entry.hasFrame = (takings.tunnel.bind Scheduled.frame?).toList.length := by
  obtain ⟨tunnel, socket4, socket6⟩ := takings
  cases tunnel with
  | none => cases socket4 <;> cases socket6 <;> exact ⟨rfl, rfl⟩
  | some event =>
    obtain ⟨due, outcome⟩ := event
    cases outcome <;> cases socket4 <;> cases socket6 <;> exact ⟨rfl, rfl⟩

-- An iteration reads first, at most one frame, and all it does then is write or send.
theorem Iterated.crossed {setup : Setup} {before after : Station Script} {iteration : Iteration}
    {progress : Option Ending} (iterated : Iterated setup before iteration after progress) :
    IpTunnel.crossed iteration.entries (iteration.tunnel.bind Scheduled.frame?).toList = iteration.crossing ∧
      iteration.entries.countP Entry.hasFrame = (iteration.tunnel.bind Scheduled.frame?).toList.length := by
  obtain ⟨fault, _, dealt, _⟩ := iterated.settled
  obtain ⟨frames, balanced⟩ := crossed_reads iteration.toTakings
  have unread : ∀ entry ∈ iteration.steps.flatMap Step.effects, entry.isRead = false := by
    intro entry member
    obtain ⟨step, among, left⟩ := List.mem_flatMap.mp member
    exact (dealt.single step among).2 entry left
  have silent : (iteration.steps.flatMap Step.effects).countP Entry.hasFrame = 0 := by
    rw [List.countP_eq_zero]
    intro entry member
    have calm := unread entry member
    cases entry with
    | read device outcome => cases calm
    | write frame outcome => exact Bool.false_ne_true
    | send family packet peer outcome => exact Bool.false_ne_true
  have entries := iterated.entries_eq
  rw [← iteration.reads_eq] at entries
  have joined : IpTunnel.crossed (iteration.reads ++ iteration.steps.flatMap Step.effects) (_ ++ []) = _ :=
    crossed_append balanced
  rw [List.append_nil, frames, crossed_unread unread] at joined
  refine ⟨?_, ?_⟩
  · rw [Iteration.crossing, entries, joined, writes_append, writes_reads, List.nil_append]
  · rw [entries, List.countP_append, balanced, silent, Nat.add_zero]

theorem crossed_iterations {iterations : List Iteration}
    (each : ∀ iteration ∈ iterations,
      crossed iteration.entries (iteration.tunnel.bind Scheduled.frame?).toList = iteration.crossing ∧
        iteration.entries.countP Entry.hasFrame = (iteration.tunnel.bind Scheduled.frame?).toList.length) :
    crossed (iterations.flatMap Iteration.entries) ((iterations.filterMap (·.tunnel)).filterMap Scheduled.frame?) =
      iterations.flatMap Iteration.crossing := by
  induction iterations with
  | nil => rfl
  | cons iteration rest ih =>
    obtain ⟨frames, balanced⟩ := each iteration (List.mem_cons_self ..)
    have later := ih fun other member => each other (List.mem_cons_of_mem _ member)
    rw [List.filterMap_filterMap] at later ⊢
    rw [Chronicle.filterMap_cons_toList, List.flatMap_cons, List.flatMap_cons, crossed_append balanced, frames, later]

-- What becomes of a capture while these frames cross the tunnel device. Its writer takes any steps between
-- the packets, and every packet has a time of day of its own.
structure Captured (setup : Setup) (frames : List Bytes) (before after : Capture.Recording) : Prop where
  -- All packets behind the framing are handed over, in order, and nothing else is.
  handed : after = before.handOverAll (setup.packets frames)
  -- Unless the queue is full for one of them, it takes every packet that has an octet.
  complete : before.fills (setup.packets frames) = false →
    (∀ item ∈ before.stamps (setup.packets frames), 0 ≤ item.clock.seconds) →
    before.accepted (setup.packets frames) = (before.stamps (setup.packets frames)).filter (·.packet ≠ []) ∧
      (before.accepted (setup.packets frames)).map Capture.Stamped.packet = frames.filterMap setup.carried?
  -- Whatever it takes gets into the file.
  filed : (∀ fault, some fault ∉ before.writes (setup.packets frames)) →
    after.settle.recorder.file =
      before.settle.recorder.file ++ (before.accepted (setup.packets frames)).flatMap Capture.Stamped.record
  reported : after.sender.lossReported = (before.sender.lossReported || before.fills (setup.packets frames))
  -- The queue has room for a hundred packets with a writer that is as late as it likes, and for any number of
  -- them with one that keeps up.
  few : before.recorder.queue.length + (frames.filterMap setup.carried?).length ≤ 100 →
    before.fills (setup.packets frames) = false
  prompt : before.recorder.queue.length ≤ 100 → (∀ number, (before.turns number).writes ≠ []) →
    before.fills (setup.packets frames) = false

theorem captured_handOverAll (setup : Setup) (frames : List Bytes) (recording : Capture.Recording) :
    Captured setup frames recording (recording.handOverAll (setup.packets frames)) where
  handed := rfl
  complete roomy known := by
    have accepted := Capture.Recording.accepted_of_room known roomy
    have packets : ((recording.stamps (setup.packets frames)).filter (·.packet ≠ [])).map Capture.Stamped.packet =
        (setup.packets frames).filter (· ≠ []) := calc
      _ = ((recording.stamps (setup.packets frames)).map Capture.Stamped.packet).filter (· ≠ []) :=
        List.filter_map.symm
      _ = _ := by rw [recording.packets_stamps]
    exact ⟨accepted, by rw [accepted, packets, setup.filter_packets]⟩
  filed written := recording.content_handOverAll written
  reported := recording.reported_handOverAll _
  few room := by
    rw [← setup.filter_packets] at room
    exact Capture.Recording.fills_few room
  prompt room prompt := Capture.Recording.fills_prompt room prompt

-- A capture is handed every frame that is read from the tunnel device or meant for it, and nothing else.
theorem run_captures {setup : Setup} {script : Script} {recording : Capture.Recording}
    (attached : script.recording = some recording) :
    ∃ taken entries final,
      script.tunnel = taken ++ (Forwarder.run setup script).1.host.tunnel ∧
      (Forwarder.run setup script).1.host.trace = script.trace ++ entries ∧
      entries.filter Entry.isTunnelRead = taken.map Takings.readTunnel ∧
      (Forwarder.run setup script).1.host.recording = some final ∧
      Captured setup (crossed entries (taken.filterMap Scheduled.frame?)) recording final := by
  obtain ⟨iterations, finished, chronicle, outcome⟩ := Forwarder.run_chronicle setup script
  obtain ⟨tunnel, _, _, trace⟩ := chronicle.told
  have handed := chronicle.recording Buffers.sized_initial
  have crossing := crossed_iterations fun iteration member => by
    obtain ⟨_, _, _, iterated⟩ := chronicle.member member
    exact iterated.crossed
  have start : (Forwarder.started setup script).host.recording = some recording := attached
  rw [Script.recorded, start] at handed
  rw [outcome]
  refine ⟨_, _, _, tunnel, trace, chronicle.forwarded.reads, handed, ?_⟩
  rw [crossing]
  exact captured_handOverAll setup _ recording

def lonely : Setup where
  mode := .v4
  privates := .empty
  listens := ⟨some (.ofOctets 127 0 0 1), none⟩
  tunName := "tun0"
  port := 5000
  peers := .empty
  idleTimeout := none
  closeTimeout := 0
  initialSleep := 0
  framing := true
  capturePath := some "tunnel.pcap"

-- The writer takes a record before each packet but every third, and a second passes between them.
def taping : Capture.Recording :=
  .start fun number => ⟨if number % 3 = 2 then [] else [none], ⟨1700000000 + number, 500⟩⟩

-- Frames with half of their framing, with nothing behind it, with a packet that is dropped and with one that
-- has no peer; a keep-alive, and a packet from a socket.
def taped : Script where
  mode := .v4
  now := 0
  sleep := id
  tunnel := [⟨0, .ok [0, 0]⟩, ⟨0, .ok [0, 0, 8, 0]⟩, ⟨1, .ok [0, 0, 0x86, 0xDD, 0x60]⟩,
    ⟨2, .ok ([0, 0, 8, 0] ++ 0x45 :: List.replicate 19 0)⟩]
  socket4 := [⟨0, .ok (.datagram [])⟩, ⟨1, .ok (.datagram (0x45 :: List.replicate 32 0))⟩]
  socket6 := []
  tunnelResults := []
  results4 := []
  results6 := []
  shutdown := none
  recording := some taping
  trace := []
  log := []

theorem run_captures_lonely :
    taped.recording = some taping ∧
      (Forwarder.run lonely taped).1.host.recording.map (·.sender.lossReported) = some false ∧
      (Forwarder.run lonely taped).1.host.recording.map (·.settle.recorder.file) =
        some (Capture.fileHeader ++ Capture.record 1700000001 500 [0x60] ++
          Capture.record 1700000002 500 (0x45 :: List.replicate 32 0) ++
          Capture.record 1700000003 500 (0x45 :: List.replicate 19 0)) ∧
      ∃ taken entries final,
        taped.tunnel = taken ++ (Forwarder.run lonely taped).1.host.tunnel ∧
        (Forwarder.run lonely taped).1.host.trace = taped.trace ++ entries ∧
        entries.filter Entry.isTunnelRead = taken.map Takings.readTunnel ∧
        (Forwarder.run lonely taped).1.host.recording = some final ∧
        Captured lonely (crossed entries (taken.filterMap Scheduled.frame?)) taping final :=
  ⟨rfl, by decide +kernel, by decide +kernel, run_captures rfl⟩

end IpTunnel
