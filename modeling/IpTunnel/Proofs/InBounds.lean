import IpTunnel.Proofs.CheckedPlans
import IpTunnel.Proofs.Sockets
import IpTunnel.Proofs.Unbuffered

namespace IpTunnel

def delivered? : Option (Except IoError α) → Option α
  | some (.ok item) => some item
  | _ => none

theorem delivered?_eq_some {outcome : Option (Except IoError α)} {item : α} :
    delivered? outcome = some item ↔ outcome = some (.ok item) := by
  cases outcome with
  | none => simp [delivered?]
  | some result => cases result <;> simp [delivered?]

-- Events whose lengths do not exceed the buffers that were offered for them.
def Events.Within (events : Events) : Prop :=
  (∀ length ∈ delivered? events.tunnel, length ≤ bufferLength) ∧
    (∀ received ∈ delivered? events.socket4, received.length ≤ roomLength) ∧
    (∀ received ∈ delivered? events.socket6, received.length ≤ roomLength)

instance (events : Events) : Decidable events.Within := inferInstanceAs (Decidable (_ ∧ _ ∧ _))

-- What is offered to the reads: a whole buffer for the tunnel, the rest behind the room for framing for a socket.
def Buffers.Offers (buffers : Buffers) : Prop :=
  buffers.tunnel.length = bufferLength ∧
    (buffers.datagram4.drop framingLength).length = roomLength ∧
    (buffers.datagram6.drop framingLength).length = roomLength

instance (buffers : Buffers) : Decidable buffers.Offers := inferInstanceAs (Decidable (_ ∧ _ ∧ _))

namespace Capture

-- The record is made before it is known whether the queue has a place for it.
def Sender.send? (sender : Sender) (clock : Clock) (packet : Bytes) (recorder : Recorder) : Option Sending :=
  if packet = [] then some ⟨recorder, sender, []⟩
  else if clock.seconds < 0 then some ⟨recorder, sender, [.clockBeforeEpoch]⟩
  else do
    let record ← record? clock.seconds.toNat clock.nanoseconds packet
    if recorder.queue.length < queueLimit then some ⟨⟨recorder.file, recorder.queue ++ [record]⟩, sender, []⟩
    else some ⟨recorder, ⟨true⟩, if sender.lossReported then [] else [.captureFull]⟩

theorem Sender.send?_eq (sender : Sender) (clock : Clock) (packet : Bytes) (recorder : Recorder) :
    sender.send? clock packet recorder = some (sender.send clock packet recorder) := by
  simp only [send?, send, record?_eq, Option.bind_eq_bind, Option.bind_some]
  split
  · rfl
  · split
    · rfl
    · split <;> rfl

def Recording.handOver? (packet : Bytes) (recording : Recording) : Option (Recording × List Notice) := do
  let writing := recording.recorder.write recording.turn.writes
  let sending ← recording.sender.send? recording.turn.clock packet writing.recorder
  some ({ recording with recorder := sending.recorder, sender := sending.sender, handed := recording.handed + 1 },
    writing.notices ++ sending.notices)

theorem Recording.handOver?_eq (packet : Bytes) (recording : Recording) :
    recording.handOver? packet = some (recording.handOver packet) := by
  rw [handOver?, Sender.send?_eq]
  rfl

end Capture

namespace Kernel

def capture? (packet : Bytes) (kernel : Kernel) : Option Kernel :=
  match kernel.recording with
  | none => some kernel
  | some recording => do
    let (recording, notices) ← recording.handOver? packet
    some { kernel.say notices with recording := some recording }

theorem capture?_eq (packet : Bytes) (kernel : Kernel) : kernel.capture? packet = some (kernel.capture packet) := by
  unfold capture? capture
  cases kernel.recording with
  | none => rfl
  | some recording => simp only [Capture.Recording.handOver?_eq, Option.bind_eq_bind, Option.bind_some]

theorem readTunnel_inside {kernel : Kernel} {buffer : Bytes} {length : Nat}
    (read : (kernel.readTunnel buffer).outcome = some (.ok length)) : length ≤ buffer.length := by
  unfold readTunnel at read
  cases found : kernel.tunnel with
  | none => simp [found] at read
  | some device =>
    simp only [found, TunDevice.read] at read
    split at read
    · generalize device.descriptor.take = answer at read
      obtain ⟨after, taken⟩ := answer
      cases taken with
      | blocked => cases read
      | failed errno => cases read
      | data data =>
        cases read
        exact Nat.min_le_right _ _
    · cases read

-- An oversized datagram is dropped and a fragment is cut off, so a result always fits.
theorem receive_inside {kernel : Kernel} {family : Family} {buffer : Bytes} {received : Received}
    (read : (kernel.receive family buffer).outcome = some (.ok received)) : received.length ≤ buffer.length := by
  unfold receive at read
  cases found : kernel.socket family with
  | none => simp [found] at read
  | some socket =>
    rw [found] at read
    have itself : Alike buffer.length 0 buffer buffer := ⟨rfl, rfl, Nat.zero_le _, rfl⟩
    have agree := UdpSocket.receiveWithin_agree (UdpSocket.passes socket.descriptor + 1) itself socket.descriptor
    exact (agree.front received read).inside

end Kernel

namespace Forwarder

def look? (setup : Setup) (run : Run Kernel) : Option (Run Kernel × Events) :=
  if run.session.buffers.Offers then
    let (run, events) := look setup run
    if events.Within then some (run, events) else none
  else none

def waitUntil? (setup : Setup) (deadline : Option Nat) : Nat → Run Kernel → Option (Wait Kernel)
  | 0, run => some (.stuck run)
  | fuel + 1, run => do
    let (run, events) ← look? setup run
    if events.isReady then some (.ready run events)
    else
      match Host.await deadline run.host with
      | (.woken, host) => waitUntil? setup deadline fuel { run with host := host }
      | (.timedOut, host) => some (.idle { run with host := host })
      | (.never, host) => some (.stuck { run with host := host })

def wait? (setup : Setup) (run : Run Kernel) : Option (Wait Kernel) :=
  waitUntil? setup (setup.idleTimeout.map (Host.now run.host + ·)) (Host.pending run.host + 1) run

def perform? (run : Run Kernel) : List Deed → Option (Progress Kernel)
  | [] => some ⟨run, none⟩
  | .say notice :: rest => perform? (say notice run) rest
  | .capture packet :: rest => do
    let host ← run.host.capture? packet
    perform? { run with host := host } rest
  | .send family packet peer :: rest =>
    match Host.send family packet peer run.host with
    | (some (.ok ()), host) => perform? { run with host := host } rest
    | (some (.error cause), host) => some ⟨{ run with host := host }, some (.failed (.socketWrite cause))⟩
    | (none, host) => some ⟨{ run with host := host }, some .stuck⟩
  | .write frame :: rest =>
    match Host.write frame run.host with
    | (some (.ok ()), host) => perform? { run with host := host } rest
    | (some (.error cause), host) => some ⟨{ run with host := host }, some (.failed (.tunnelWrite cause))⟩
    | (none, host) => some ⟨{ run with host := host }, some .stuck⟩
  | .fail cause :: _ => some ⟨run, some (.failed cause)⟩
  | .overrun :: _ => none

def handleTunnel? (setup : Setup) (event : Option (Except IoError Nat)) (run : Run Kernel) :
    Option (Progress Kernel) :=
  match event with
  | none => some ⟨run, none⟩
  | some (.error cause) => some ⟨run, some (.failed (.tunnelRead cause))⟩
  | some (.ok length) => do
    let frame ← run.session.buffers.tunnel.slice? 0 length
    let deeds ← Plan.ofFrame? setup frame
    perform? run deeds

def handleDatagram? (setup : Setup) (family : Family) (length : Nat) (run : Run Kernel) :
    Option (Progress Kernel) := do
  let plan ← Plan.ofDatagram? setup family (run.session.buffers.datagram family) length
  let buffers := run.session.buffers.withDatagram family plan.buffer
  perform? { run with session := { run.session with buffers := buffers } } plan.deeds

def handleReport? (setup : Setup) (family : Family) (error : ExtendedError) (length : Nat) (run : Run Kernel) :
    Option (Progress Kernel) := do
  let buffers := run.session.buffers
  let plan ← Plan.ofReport? setup family error (buffers.datagram family) length buffers.forged
  perform? { run with session := { run.session with buffers := { buffers with forged := plan.buffer } } } plan.deeds

def handleSocket? (setup : Setup) (family : Family) (event : Option (Except IoError Received)) (run : Run Kernel) :
    Option (Progress Kernel) :=
  match event with
  | none => some ⟨run, none⟩
  | some (.error cause) => some ⟨run, some (.failed (.socketRead cause))⟩
  | some (.ok (.datagram length)) => handleDatagram? setup family length run
  | some (.ok (.report error length)) => handleReport? setup family error length run

def Progress.andThen? (progress : Progress Kernel) (next : Run Kernel → Option (Progress Kernel)) :
    Option (Progress Kernel) :=
  match progress.ending with
  | some _ => some progress
  | none => next progress.run

def handle? (setup : Setup) (events : Events) (run : Run Kernel) : Option (Progress Kernel) := do
  let progress ← handleTunnel? setup events.tunnel (handleNews events.news run)
  Progress.andThen? progress fun run => do
    let progress ← handleSocket? setup .v4 events.socket4 run
    Progress.andThen? progress (handleSocket? setup .v6 events.socket6)

def iterate? (setup : Setup) (run : Run Kernel) : Option (Progress Kernel) :=
  if run.session.closing then some (close setup run)
  else do
    let waited ← wait? setup run
    match waited with
    | .ready run events => handle? setup events run
    | .idle run => some ⟨say .noActivity run, some (.stopped .idle)⟩
    | .stuck run => some ⟨run, some .stuck⟩

def loop? (setup : Setup) : Nat → Run Kernel → Option (Run Kernel × Ending)
  | 0, run => some (run, .stuck)
  | fuel + 1, run => do
    let progress ← iterate? setup run
    match progress with
    | ⟨run, some ending⟩ => some (run, ending)
    | ⟨run, none⟩ => loop? setup fuel run

def run? (setup : Setup) (kernel : Kernel) : Option (Run Kernel × Ending) := do
  let started := say (.running setup.mode) ⟨{ Session.initial with phase := .running }, kernel⟩
  let (finished, ending) ← loop? setup (Host.pending kernel + 3) started
  some (⟨{ finished.session with phase := .stopped }, finished.host⟩, ending)

theorem perform?_eq {deeds : List Deed} (run : Run Kernel) (contained : Contained deeds) :
    perform? run deeds = some (perform run deeds) := by
  induction deeds generalizing run with
  | nil => rfl
  | cons deed rest ih =>
    cases deed with
    | say notice => exact ih _ contained
    | capture packet =>
      have captured := ih { run with host := Host.capture packet run.host } contained
      rw [perform?, Kernel.capture?_eq]
      exact captured
    | send family packet peer =>
      have others : Contained rest := mt (List.mem_cons_of_mem _) contained
      simp only [perform?, perform]
      generalize Host.send family packet peer run.host = answer
      rcases answer with ⟨_ | _ | _, after⟩
      · rfl
      · rfl
      · exact ih _ others
    | write frame =>
      have others : Contained rest := mt (List.mem_cons_of_mem _) contained
      simp only [perform?, perform]
      generalize Host.write frame run.host = answer
      rcases answer with ⟨_ | _ | _, after⟩
      · rfl
      · rfl
      · exact ih _ others
    | fail cause => rfl
    | overrun => exact absurd (List.mem_cons_self ..) contained

theorem offers_of_sized {buffers : Buffers} (sized : buffers.Sized) : buffers.Offers := by
  have part (family : Family) : ((buffers.datagram family).drop framingLength).length = roomLength := by
    rw [List.length_drop, sized.datagram]
    rfl
  exact ⟨sized.tunnel, part .v4, part .v6⟩

theorem within_of_looked {run : Run Kernel} {events : Events} {station : Station Kernel} {intake : Intake}
    (looked : Unbuffered.Looked run events station intake) : events.Within := by
  have socket (family : Family) (received : Received)
      (told : (intake.socket family).map (·.map Delivery.received) = some (.ok received)) :
      received.length ≤ roomLength := by
    obtain ⟨outcome, taken, mapped⟩ := Option.map_eq_some_iff.mp told
    cases outcome with
    | error cause => cases mapped
    | ok delivery =>
      obtain ⟨_, bound, _⟩ := Bytes.slice?_eq_some.mp (looked.holds.socket family delivery taken)
      have size : received.length = delivery.data.length := by
        cases mapped
        cases delivery <;> rfl
      rw [looked.sized.datagram, ← size] at bound
      change _ ≤ framingLength + roomLength at bound
      omega
  rw [looked.events]
  refine ⟨?_, ?_, ?_⟩
  · intro length told
    obtain ⟨outcome, taken, mapped⟩ := Option.map_eq_some_iff.mp (delivered?_eq_some.mp told)
    cases outcome with
    | error cause => cases mapped
    | ok frame =>
      cases mapped
      obtain ⟨_, bound, _⟩ := Bytes.slice?_eq_some.mp (looked.holds.tunnel frame taken)
      rw [looked.sized.tunnel] at bound
      exact bound
  · intro received told
    exact socket .v4 received (delivered?_eq_some.mp told)
  · intro received told
    exact socket .v6 received (delivered?_eq_some.mp told)

theorem look?_eq {run : Run Kernel} (setup : Setup) (sized : run.session.buffers.Sized) :
    look? setup run = some (look setup run) := by
  have within := within_of_looked (Unbuffered.look_erase setup sized)
  rw [look?, if_pos (offers_of_sized sized)]
  exact if_pos within

theorem waitUntil?_eq {run : Run Kernel} (setup : Setup) (deadline : Option Nat) (fuel : Nat)
    (sized : run.session.buffers.Sized) :
    waitUntil? setup deadline fuel run = some (waitUntil setup deadline fuel run) := by
  induction fuel generalizing run with
  | zero => rfl
  | succ fuel ih =>
    have looked := Unbuffered.look_erase setup sized
    simp only [waitUntil?, waitUntil, look?_eq setup sized, Option.bind_eq_bind, Option.bind_some]
    by_cases ready : (look setup run).2.isReady = true
    · rw [if_pos ready, if_pos ready]
    · rw [if_neg ready, if_neg ready]
      generalize Host.await deadline (look setup run).1.host = answer
      obtain ⟨waking, after⟩ := answer
      cases waking with
      | woken => exact ih looked.sized
      | timedOut => rfl
      | never => rfl

theorem handleTunnel?_eq (setup : Setup) {event : Option (Except IoError Nat)} {run : Run Kernel}
    (sized : run.session.buffers.Sized) (inside : ∀ length ∈ delivered? event, length ≤ bufferLength) :
    handleTunnel? setup event run = some (handleTunnel setup event run) ∧
      (handleTunnel setup event run).run.session = run.session := by
  cases event with
  | none => exact ⟨rfl, rfl⟩
  | some outcome =>
    cases outcome with
    | error cause => exact ⟨rfl, rfl⟩
    | ok length =>
      have bound : length ≤ run.session.buffers.tunnel.length := by
        rw [sized.tunnel]
        exact inside length rfl
      have held := Bytes.slice?_take bound
      simp only [handleTunnel?, handleTunnel, held, Plan.ofFrame?_eq, Option.bind_eq_bind, Option.bind_some,
        perform?_eq _ (contained_ofFrame setup _), Unbuffered.perform_eq, and_self]

theorem part_behindFraming {buffer : Bytes} {length : Nat} (size : buffer.length = bufferLength)
    (inside : length ≤ roomLength) :
    ∃ part : Bytes, part.length = length ∧ buffer.slice? framingLength (framingLength + part.length) = some part := by
  have bound : framingLength + length ≤ buffer.length := by
    rw [size]
    exact Nat.add_le_add_left inside framingLength
  have length_eq : ((buffer.drop framingLength).take length).length = length := by
    apply List.length_take_of_le
    rw [List.length_drop]
    omega
  refine ⟨(buffer.drop framingLength).take length, length_eq, ?_⟩
  rw [length_eq]
  refine Bytes.slice?_eq_some.mpr ⟨Nat.le_add_right _ _, bound, ?_⟩
  rw [Nat.add_sub_cancel_left]

theorem handleSocket?_eq (setup : Setup) (family : Family) {event : Option (Except IoError Received)}
    {run : Run Kernel} (sized : run.session.buffers.Sized)
    (inside : ∀ received ∈ delivered? event, received.length ≤ roomLength) :
    handleSocket? setup family event run = some (handleSocket setup family event run) ∧
      (handleSocket setup family event run).run.session.buffers.Sized := by
  have size := sized.datagram family
  cases event with
  | none => exact ⟨rfl, sized⟩
  | some outcome =>
    cases outcome with
    | error cause => exact ⟨rfl, sized⟩
    | ok received =>
      obtain ⟨part, length, held⟩ := part_behindFraming size (inside received rfl)
      obtain ⟨_, bound, _⟩ := Bytes.slice?_eq_some.mp held
      cases received with
      | datagram octets =>
        change part.length = octets at length
        subst length
        obtain ⟨deeds, kept⟩ := Plan.ofDatagram_eq setup family held
        have contained : Contained (Plan.ofDatagram setup family (run.session.buffers.datagram family)
            part.length).deeds := deeds ▸ contained_ofDatagram setup family part
        simp only [handleSocket?, handleSocket, handleDatagram?, handleDatagram, Plan.ofDatagram?_eq setup family bound,
          Option.bind_eq_bind, Option.bind_some, perform?_eq _ contained, Unbuffered.perform_eq, true_and]
        exact sized.withDatagram family (kept.trans size)
      | report error octets =>
        change part.length = octets at length
        subst length
        obtain ⟨deeds, kept⟩ := Plan.ofReport_eq setup family error held sized.forged
        have contained : Contained (Plan.ofReport setup family error (run.session.buffers.datagram family) part.length
            run.session.buffers.forged).deeds := deeds ▸ contained_ofReport setup family error part
        simp only [handleSocket?, handleSocket, handleReport?, handleReport,
          Plan.ofReport?_eq setup family error bound sized.forged, Option.bind_eq_bind, Option.bind_some,
          perform?_eq _ contained, Unbuffered.perform_eq, true_and]
        exact sized.withForged (kept.trans sized.forged)

theorem andThen?_eq {progress : Progress Kernel} {checked : Run Kernel → Option (Progress Kernel)}
    {next : Run Kernel → Progress Kernel} (agree : checked progress.run = some (next progress.run)) :
    Progress.andThen? progress checked = some (Progress.andThen progress next) := by
  unfold Progress.andThen? Progress.andThen
  cases progress.ending with
  | none => exact agree
  | some ending => rfl

theorem handle?_eq (setup : Setup) {events : Events} {run : Run Kernel} (sized : run.session.buffers.Sized)
    (within : events.Within) : handle? setup events run = some (handle setup events run) := by
  obtain ⟨tunnel, socket4, socket6⟩ := within
  obtain ⟨_, unchanged⟩ := Unbuffered.heed_erase events.news run
  rw [← unchanged] at sized
  obtain ⟨handled, same⟩ := handleTunnel?_eq setup sized tunnel
  rw [← same] at sized
  simp only [handle?, handle, handled, Option.bind_eq_bind, Option.bind_some]
  apply andThen?_eq
  obtain ⟨handled4, sized4⟩ := handleSocket?_eq setup .v4 sized socket4
  rw [handled4, Option.bind_some]
  apply andThen?_eq
  exact (handleSocket?_eq setup .v6 sized4 socket6).1

theorem iterate?_eq (setup : Setup) {run : Run Kernel} (sized : run.session.buffers.Sized) :
    iterate? setup run = some (iterate setup run) := by
  unfold iterate? iterate
  split
  · rfl
  · have waited : Unbuffered.Waited (wait setup run) (Unbuffered.wait setup run.erase) :=
      Unbuffered.waitUntil_erase setup _ _ sized
    have checked : wait? setup run = some (wait setup run) := waitUntil?_eq setup _ _ sized
    rw [checked]
    simp only [Option.bind_eq_bind, Option.bind_some]
    generalize wait setup run = paused at waited
    generalize Unbuffered.wait setup run.erase = pause at waited
    cases waited with
    | ready looked => exact handle?_eq setup looked.sized (within_of_looked looked)
    | idle erase sized => rfl
    | stuck erase sized => rfl

theorem loop?_eq (setup : Setup) (fuel : Nat) {run : Run Kernel} (sized : run.session.buffers.Sized) :
    loop? setup fuel run = some (loop setup fuel run) := by
  induction fuel generalizing run with
  | zero => rfl
  | succ fuel ih =>
    obtain ⟨_, kept⟩ := Unbuffered.iterate_erase setup sized
    simp only [loop?, loop, iterate?_eq setup sized, Option.bind_eq_bind, Option.bind_some]
    generalize iterate setup run = progress at kept
    obtain ⟨after, _ | ending⟩ := progress
    · exact ih kept
    · rfl

theorem run?_eq (setup : Setup) (kernel : Kernel) : run? setup kernel = some (run setup kernel) := by
  simp only [run?, run, Option.bind_eq_bind]
  rw [loop?_eq setup (Host.pending kernel + 3), Option.bind_some]
  exact Buffers.sized_initial

end Forwarder

-- Whatever the system has for the device and the sockets, reads hand over no more than the buffer that they were
-- offered. Within these bounds no event makes an access that fails, and no run ever does.
theorem run_inBounds :
    (∀ (kernel : Kernel) (buffer : Bytes) (length : Nat),
      (kernel.readTunnel buffer).outcome = some (.ok length) → length ≤ buffer.length) ∧
    (∀ (kernel : Kernel) (family : Family) (buffer : Bytes) (received : Received),
      (kernel.receive family buffer).outcome = some (.ok received) → received.length ≤ buffer.length) ∧
    (∀ (setup : Setup) (events : Events) (run : Run Kernel), run.session.buffers.Sized → events.Within →
      Forwarder.handle? setup events run = some (Forwarder.handle setup events run)) ∧
    (∀ (setup : Setup) (kernel : Kernel), Forwarder.run? setup kernel = some (Forwarder.run setup kernel)) := by
  refine ⟨?_, ?_, ?_, ?_⟩
  · intro kernel buffer length read
    exact Kernel.readTunnel_inside read
  · intro kernel family buffer received read
    exact Kernel.receive_inside read
  · intro setup events run sized within
    exact Forwarder.handle?_eq setup sized within
  · intro setup kernel
    exact Forwarder.run?_eq setup kernel

def framed : Setup where
  mode := .dual
  privates := ⟨none, some ⟨List.replicate 16 1, rfl⟩⟩
  listens := ⟨some (.ofOctets 127 0 0 1), some ⟨List.replicate 16 2, rfl⟩⟩
  tunName := "tun0"
  port := 5000
  peers := .empty
  idleTimeout := none
  closeTimeout := 0
  initialSleep := 0
  framing := true
  capturePath := some "tunnel.pcap"

def unreachable : ExtendedError := ⟨113, .icmp6, 1, 0, 0, some (.v6 ⟨List.replicate 16 3, rfl⟩)⟩

def crowded : Kernel where
  now := 0
  sleep := id
  tunnel := some ⟨"tun0", (Descriptor.opened [.data (List.replicate 12 0x45)] [] []).wake⟩
  socket4 := some ⟨.v4 (.ofOctets 127 0 0 1) 5000,
    (Descriptor.opened [] [] [.message (List.replicate 12 0x45) [⟨0, 11, List.replicate 16 0⟩]]).wake⟩
  socket6 := none
  signal := .never
  recording := some (.start fun _ => ⟨[none], ⟨0, 0⟩⟩)
  log := []

def brimful : Events := ⟨none, some (.ok 2048), some (.ok (.datagram 2044)), some (.ok (.report unreachable 2044))⟩

theorem run_inBounds_brimful :
    (crowded.readTunnel (List.replicate 8 0)).outcome = some (.ok 8) ∧ 8 ≤ (List.replicate 8 (0 : UInt8)).length ∧
      (crowded.receive .v4 (List.replicate 8 0)).outcome =
        some (.ok (.report ⟨0, .unspecified, 0, 0, 0, none⟩ 8)) ∧
      (Received.report ⟨0, .unspecified, 0, 0, 0, none⟩ 8).length ≤ (List.replicate 8 (0 : UInt8)).length ∧
      Session.initial.buffers.Sized ∧ brimful.Within ∧
      Forwarder.handle? framed brimful ⟨.initial, crowded⟩ =
        some (Forwarder.handle framed brimful ⟨.initial, crowded⟩) ∧
      Forwarder.run? framed crowded = some (Forwarder.run framed crowded) := by
  obtain ⟨reads, receives, handles, runs⟩ := run_inBounds
  have read : (crowded.readTunnel (List.replicate 8 0)).outcome = some (.ok 8) := rfl
  have received : (crowded.receive .v4 (List.replicate 8 0)).outcome =
      some (.ok (.report ⟨0, .unspecified, 0, 0, 0, none⟩ 8)) := rfl
  have within : brimful.Within := by decide
  exact ⟨read, reads _ _ _ read, received, receives _ _ _ _ received, Buffers.sized_initial, within,
    handles _ _ _ Buffers.sized_initial within, runs _ _⟩

end IpTunnel
