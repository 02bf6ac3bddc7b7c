import IpTunnel.Proofs.Deeds

namespace IpTunnel

structure Intake where
  news : Option News
  tunnel : Option (Except IoError Bytes)
  socket4 : Option (Except IoError Delivery)
  socket6 : Option (Except IoError Delivery)

namespace Intake

def events (intake : Intake) : Events where
  news := intake.news
  tunnel := intake.tunnel.map (·.map List.length)
  socket4 := intake.socket4.map (·.map Delivery.received)
  socket6 := intake.socket6.map (·.map Delivery.received)

def socket (intake : Intake) : Family → Option (Except IoError Delivery)
  | .v4 => intake.socket4
  | .v6 => intake.socket6

def deeds (setup : Setup) (intake : Intake) : List Deed :=
  Deed.ofTunnel setup intake.tunnel ++
    (Deed.ofSocket setup .v4 intake.socket4 ++ Deed.ofSocket setup .v6 intake.socket6)

end Intake

-- A run with its buffers forgotten.
structure Station (σ : Type) where
  host : σ
  phase : Phase
  listening : Bool
  closing : Bool

def Run.erase (run : Run σ) : Station σ :=
  ⟨run.host, run.session.phase, run.session.listening, run.session.closing⟩

def Progress.erase (progress : Progress σ) : Station σ × Option Ending := (progress.run.erase, progress.ending)

namespace Unbuffered

variable {σ : Type} [Host σ]

-- The session takes no part in doing deeds; any other would do.
def act (deeds : List Deed) (host : σ) : σ × Option Ending :=
  let done := Forwarder.perform ⟨Session.initial, host⟩ deeds
  (done.run.host, done.ending)

theorem perform_session (session other : Session) (host : σ) (deeds : List Deed) :
    Forwarder.perform ⟨session, host⟩ deeds =
      ⟨⟨session, (Forwarder.perform ⟨other, host⟩ deeds).run.host⟩, (Forwarder.perform ⟨other, host⟩ deeds).ending⟩ := by
  induction deeds generalizing host with
  | nil => rfl
  | cons deed rest ih =>
    cases deed with
    | say notice => exact ih _
    | capture packet => exact ih _
    | send family packet peer =>
      simp only [Forwarder.perform]
      split
      · exact ih _
      · rfl
      · rfl
    | write frame =>
      simp only [Forwarder.perform]
      split
      · exact ih _
      · rfl
      · rfl
    | fail cause => rfl
    | overrun => rfl

theorem perform_eq (run : Run σ) (deeds : List Deed) :
    Forwarder.perform run deeds = ⟨⟨run.session, (act deeds run.host).1⟩, (act deeds run.host).2⟩ :=
  perform_session run.session Session.initial run.host deeds

theorem act_send (family : Family) (packet : Bytes) (peer : Endpoint) (rest : List Deed) (host : σ) :
    act (.send family packet peer :: rest) host =
      match Host.send family packet peer host with
      | (some (.ok ()), host) => act rest host
      | (some (.error cause), host) => (host, some (.failed (.socketWrite cause)))
      | (none, host) => (host, some .stuck) := by
  simp only [act, Forwarder.perform]
  generalize Host.send family packet peer host = answer
  rcases answer with ⟨_ | _ | _, after⟩ <;> rfl

theorem act_write (frame : Bytes) (rest : List Deed) (host : σ) :
    act (.write frame :: rest) host =
      match Host.write frame host with
      | (some (.ok ()), host) => act rest host
      | (some (.error cause), host) => (host, some (.failed (.tunnelWrite cause)))
      | (none, host) => (host, some .stuck) := by
  simp only [act, Forwarder.perform]
  generalize Host.write frame host = answer
  rcases answer with ⟨_ | _ | _, after⟩ <;> rfl

theorem act_append (first second : List Deed) (host : σ) :
    act (first ++ second) host =
      match act first host with
      | (host, none) => act second host
      | (host, some ending) => (host, some ending) := by
  induction first generalizing host with
  | nil => rfl
  | cons deed rest ih =>
    cases deed with
    | say notice => exact ih _
    | capture packet => exact ih _
    | send family packet peer =>
      rw [List.cons_append, act_send, act_send]
      split
      · exact ih _
      · rfl
      · rfl
    | write frame =>
      rw [List.cons_append, act_write, act_write]
      split
      · exact ih _
      · rfl
      · rfl
    | fail cause => rfl
    | overrun => rfl

-- The buffers have what was taken: a frame at the front, a delivery behind the room for framing.
structure Holds (buffers : Buffers) (intake : Intake) : Prop where
  tunnel : ∀ frame, intake.tunnel = some (.ok frame) → buffers.tunnel.slice? 0 frame.length = some frame
  socket : ∀ family delivery, intake.socket family = some (.ok delivery) →
    (buffers.datagram family).slice? framingLength (framingLength + delivery.data.length) = some delivery.data

def heed (news : Option News) (station : Station σ) : Station σ :=
  match news with
  | none => station
  | some .requested => { station with closing := true }
  | some .lost => { station with host := Host.say .shutdownLost station.host, listening := false }

def handle (setup : Setup) (intake : Intake) (station : Station σ) : Station σ × Option Ending :=
  let station := heed intake.news station
  let done := act (intake.deeds setup) station.host
  ({ station with host := done.1 }, done.2)

def close (setup : Setup) (station : Station σ) : Station σ × Option Ending :=
  let host := Host.say (.shuttingDown setup.closeTimeout) station.host
  ({ station with host := Host.rest setup.closeTimeout host, phase := .shuttingDown }, some (.stopped .shutdown))

theorem handleTunnel_eq {run : Run σ} {setup : Setup} {event : Option (Except IoError Bytes)}
    (held : ∀ frame, event = some (.ok frame) → run.session.buffers.tunnel.slice? 0 frame.length = some frame) :
    Forwarder.handleTunnel setup (event.map (·.map List.length)) run =
      Forwarder.perform run (Deed.ofTunnel setup event) := by
  cases event with
  | none => rfl
  | some outcome =>
    cases outcome with
    | error cause => rfl
    | ok frame => simp [Forwarder.handleTunnel, Except.map, held frame rfl, Deed.ofTunnel]

theorem handleSocket_eq (run : Run σ) (setup : Setup) (family : Family) {event : Option (Except IoError Delivery)}
    (sized : run.session.buffers.Sized)
    (held : ∀ delivery, event = some (.ok delivery) →
      (run.session.buffers.datagram family).slice? framingLength (framingLength + delivery.data.length) =
        some delivery.data) :
    ∃ buffers : Buffers, buffers.Sized ∧
      (∀ other, other ≠ family → buffers.datagram other = run.session.buffers.datagram other) ∧
      Forwarder.handleSocket setup family (event.map (·.map Delivery.received)) run =
        Forwarder.perform { run with session := { run.session with buffers := buffers } }
          (Deed.ofSocket setup family event) := by
  cases event with
  | none => exact ⟨_, sized, fun _ _ => rfl, rfl⟩
  | some outcome =>
    cases outcome with
    | error cause => exact ⟨_, sized, fun _ _ => rfl, rfl⟩
    | ok delivery =>
      cases delivery with
      | datagram datagram =>
        have content : (run.session.buffers.datagram family).slice? framingLength (framingLength + datagram.length) =
            some datagram := held _ rfl
        have plan := Plan.ofDatagram_eq setup family content
        refine ⟨_, sized.withDatagram family (plan.2.trans (sized.datagram family)),
          fun other different => Buffers.datagram_withOther _ _ different, ?_⟩
        simp only [Option.map, Except.map, Delivery.received, Deed.ofSocket, Deed.ofDelivery, ← plan.1]
        rfl
      | report error fragment =>
        have content : (run.session.buffers.datagram family).slice? framingLength (framingLength + fragment.length) =
            some fragment := held _ rfl
        have plan := Plan.ofReport_eq setup family error content sized.forged
        refine ⟨_, sized.withForged (plan.2.trans sized.forged), fun other _ => by cases other <;> rfl, ?_⟩
        simp only [Option.map, Except.map, Delivery.received, Deed.ofSocket, Deed.ofDelivery, ← plan.1]
        rfl

theorem heed_erase (news : Option News) (run : Run σ) :
    (Forwarder.handleNews news run).erase = heed news run.erase ∧
      (Forwarder.handleNews news run).session.buffers = run.session.buffers := by
  cases news with
  | none => exact ⟨rfl, rfl⟩
  | some news => cases news <;> exact ⟨rfl, rfl⟩

-- A failed step leaves the later ones undone on both sides.
theorem handle_erase {run : Run σ} {intake : Intake} (setup : Setup) (sized : run.session.buffers.Sized)
    (holds : Holds run.session.buffers intake) :
    (Forwarder.handle setup intake.events run).erase = handle setup intake run.erase ∧
      (Forwarder.handle setup intake.events run).run.session.buffers.Sized := by
  obtain ⟨heeded, unchanged⟩ := heed_erase intake.news run
  have told : (Forwarder.handleNews intake.news run).host = (heed intake.news run.erase).host :=
    congrArg Station.host heeded
  rw [← unchanged] at sized holds
  simp only [Forwarder.handle, handle, Intake.events, Intake.deeds, ← heeded]
  generalize Forwarder.handleNews intake.news run = run at sized holds
  rw [handleTunnel_eq holds.tunnel, perform_eq, act_append]
  simp only [Run.erase]
  generalize act (Deed.ofTunnel setup intake.tunnel) run.host = tunnelDone
  obtain ⟨host, _ | ending⟩ := tunnelDone
  · obtain ⟨buffers4, sized4, others, done4⟩ :=
      handleSocket_eq ⟨run.session, host⟩ setup .v4 sized (holds.socket .v4)
    simp only [Intake.socket] at done4
    simp only [Forwarder.Progress.andThen, done4, perform_eq, act_append]
    generalize act (Deed.ofSocket setup .v4 intake.socket4) host = socketDone
    obtain ⟨host, _ | ending⟩ := socketDone
    · have held6 (delivery) (taken : intake.socket .v6 = some (.ok delivery)) :
          (buffers4.datagram .v6).slice? framingLength (framingLength + delivery.data.length) = some delivery.data := by
        rw [others .v6 (by decide)]
        exact holds.socket .v6 delivery taken
      obtain ⟨buffers6, sized6, _, done6⟩ :=
        handleSocket_eq ⟨{ run.session with buffers := buffers4 }, host⟩ setup .v6 sized4 held6
      simp only [Intake.socket] at done6
      simp only [done6, perform_eq]
      exact ⟨rfl, sized6⟩
    · exact ⟨rfl, sized4⟩
  · exact ⟨rfl, sized⟩

def hear (station : Station σ) : Station σ × Option News :=
  if station.listening then
    ({ station with host := (Host.hear station.host).2 }, (Host.hear station.host).1)
  else (station, none)

theorem hear_erase (run : Run σ) :
    (Forwarder.hear run).1.erase = (hear run.erase).1 ∧ (Forwarder.hear run).2 = (hear run.erase).2 ∧
      (Forwarder.hear run).1.session.buffers = run.session.buffers := by
  unfold Forwarder.hear hear
  by_cases listening : run.session.listening = true
  · simp [listening, Run.erase]
  · simp [listening, Run.erase]

variable [Pulls σ]

def pullTunnel (station : Station σ) : Station σ × Option (Except IoError Bytes) :=
  ({ station with host := (Pulls.pullTunnel station.host).1 }, (Pulls.pullTunnel station.host).2)

def pullSocket (setup : Setup) (family : Family) (station : Station σ) :
    Station σ × Option (Except IoError Delivery) :=
  if setup.hasSocket family then
    ({ station with host := (Pulls.pullSocket family station.host).1 }, (Pulls.pullSocket family station.host).2)
  else (station, none)

def pullAll (setup : Setup) (news : Option News) (station : Station σ) : Station σ × Intake :=
  let (station, tunnel) := pullTunnel station
  let (station, socket4) := pullSocket setup .v4 station
  let (station, socket6) := pullSocket setup .v6 station
  (station, ⟨news, tunnel, socket4, socket6⟩)

def look (setup : Setup) (station : Station σ) : Station σ × Intake :=
  let (station, news) := hear station
  pullAll setup news station

inductive Pause (σ : Type) where
  | ready (station : Station σ) (intake : Intake)
  | idle (station : Station σ)
  | stuck (station : Station σ)

def waitUntil (setup : Setup) (deadline : Option Nat) : Nat → Station σ → Pause σ
  | 0, station => .stuck station
  | fuel + 1, station =>
    let (station, intake) := look setup station
    if intake.events.isReady then .ready station intake
    else
      match Host.await deadline station.host with
      | (.woken, host) => waitUntil setup deadline fuel { station with host := host }
      | (.timedOut, host) => .idle { station with host := host }
      | (.never, host) => .stuck { station with host := host }

def wait (setup : Setup) (station : Station σ) : Pause σ :=
  waitUntil setup (setup.idleTimeout.map (Host.now station.host + ·)) (Host.pending station.host + 1) station

def iterate (setup : Setup) (station : Station σ) : Station σ × Option Ending :=
  if station.closing then close setup station
  else
    match wait setup station with
    | .ready station intake => handle setup intake station
    | .idle station => ({ station with host := Host.say .noActivity station.host }, some (.stopped .idle))
    | .stuck station => (station, some .stuck)

def loop (setup : Setup) : Nat → Station σ → Station σ × Ending
  | 0, station => (station, .stuck)
  | fuel + 1, station =>
    match iterate setup station with
    | (station, some ending) => (station, ending)
    | (station, none) => loop setup fuel station

theorem readTunnel_erase {run : Run σ} (sized : run.session.buffers.Sized) :
    (Forwarder.readTunnel run).1.erase = (pullTunnel run.erase).1 ∧
      (Forwarder.readTunnel run).2 = (pullTunnel run.erase).2.map (·.map List.length) ∧
      (Forwarder.readTunnel run).1.session.buffers.Sized ∧
      (∀ frame, (pullTunnel run.erase).2 = some (.ok frame) →
        (Forwarder.readTunnel run).1.session.buffers.tunnel.slice? 0 frame.length = some frame) := by
  have reads := Pulls.readTunnel run.host sized.tunnel
  refine ⟨?_, reads.outcome, ?_, ?_⟩
  · simp [Forwarder.readTunnel, pullTunnel, Run.erase, reads.host]
  · exact ⟨reads.size.trans sized.tunnel, sized.datagram, sized.forged⟩
  · intro frame pulled
    exact Bytes.slice?_front (reads.front frame pulled)

-- A poll of a socket tells of what was pulled, has its octets behind the room for framing, and leaves
-- the other buffers alone.
structure Drawn (family : Family) (before : Run σ) (polled : Run σ × Option (Except IoError Received))
    (pulled : Station σ × Option (Except IoError Delivery)) : Prop where
  erase : polled.1.erase = pulled.1
  outcome : polled.2 = pulled.2.map (·.map Delivery.received)
  sized : polled.1.session.buffers.Sized
  held : ∀ delivery, pulled.2 = some (.ok delivery) →
    (polled.1.session.buffers.datagram family).slice? framingLength (framingLength + delivery.data.length) =
      some delivery.data
  tunnel : polled.1.session.buffers.tunnel = before.session.buffers.tunnel
  others : ∀ other, other ≠ family →
    polled.1.session.buffers.datagram other = before.session.buffers.datagram other

theorem receive_erase {run : Run σ} (setup : Setup) (family : Family) (sized : run.session.buffers.Sized) :
    Drawn family run (Forwarder.receive setup family run) (pullSocket setup family run.erase) := by
  unfold Forwarder.receive pullSocket
  by_cases exists_ : setup.hasSocket family = true
  · have size := sized.datagram family
    have room : framingLength ≤ (run.session.buffers.datagram family).length := by
      rw [size]
      decide
    have part : ((run.session.buffers.datagram family).drop framingLength).length = roomLength := by
      rw [List.length_drop, size]
      rfl
    have reads := Pulls.receive family run.host part
    have grown := Buffers.length_behindFraming room (reads.size.trans List.length_drop)
    simp only [exists_, if_true]
    refine ⟨?_, reads.outcome, sized.withDatagram family (grown.trans size), ?_, ?_, ?_⟩
    · simp [Run.erase, reads.host]
    · intro delivery pulled
      rw [Buffers.datagram_withDatagram]
      exact Buffers.slice?_behindFraming room (reads.front delivery pulled)
    · exact Buffers.tunnel_withDatagram _ _ _
    · intro other different
      exact Buffers.datagram_withOther _ _ different
  · simp only [exists_]
    exact ⟨rfl, rfl, sized, by simp, rfl, fun _ _ => rfl⟩

structure Looked (run : Run σ) (events : Events) (station : Station σ) (intake : Intake) : Prop where
  erase : run.erase = station
  events : events = intake.events
  sized : run.session.buffers.Sized
  holds : Holds run.session.buffers intake

theorem look_erase {run : Run σ} (setup : Setup) (sized : run.session.buffers.Sized) :
    Looked (Forwarder.look setup run).1 (Forwarder.look setup run).2
      (look setup run.erase).1 (look setup run.erase).2 := by
  obtain ⟨heard, news, unchanged⟩ := hear_erase run
  obtain ⟨read, tunnel, sizedT, frame⟩ := readTunnel_erase (unchanged ▸ sized)
  obtain ⟨received4, socket4, sized4, held4, kept4, others4⟩ := receive_erase setup .v4 sizedT
  obtain ⟨received6, socket6, sized6, held6, kept6, others6⟩ := receive_erase setup .v6 sized4
  rw [heard] at read tunnel frame
  rw [read] at received4 socket4 held4
  rw [received4] at received6 socket6 held6
  refine ⟨received6, ?_, sized6, ⟨?_, ?_⟩⟩
  · simp only [Forwarder.look, look, pullAll, Intake.events, news, tunnel, socket4, socket6]
  · intro item pulled
    have buffer := kept6.trans kept4
    exact (congrArg (Bytes.slice? · 0 item.length) buffer).trans (frame item pulled)
  · intro family delivery pulled
    cases family with
    | v4 =>
      have buffer := others6 .v4 (by decide)
      exact (congrArg (Bytes.slice? · _ _) buffer).trans (held4 delivery pulled)
    | v6 => exact held6 delivery pulled

inductive Waited : Forwarder.Wait σ → Pause σ → Prop where
  | ready (looked : Looked run events station intake) : Waited (.ready run events) (.ready station intake)
  | idle (erase : run.erase = station) (sized : run.session.buffers.Sized) : Waited (.idle run) (.idle station)
  | stuck (erase : run.erase = station) (sized : run.session.buffers.Sized) : Waited (.stuck run) (.stuck station)

theorem waitUntil_erase {run : Run σ} (setup : Setup) (deadline : Option Nat) (fuel : Nat)
    (sized : run.session.buffers.Sized) :
    Waited (Forwarder.waitUntil setup deadline fuel run) (waitUntil setup deadline fuel run.erase) := by
  induction fuel generalizing run with
  | zero => exact .stuck rfl sized
  | succ fuel ih =>
    have looked := look_erase setup sized
    have host : (Forwarder.look setup run).1.host = (look setup run.erase).1.host :=
      congrArg Station.host looked.erase
    simp only [Forwarder.waitUntil, waitUntil, looked.events, host]
    by_cases ready : (look setup run.erase).2.events.isReady = true
    · rw [if_pos ready, if_pos ready]
      exact .ready ⟨looked.erase, rfl, looked.sized, looked.holds⟩
    · rw [if_neg ready, if_neg ready, ← looked.erase]
      generalize Host.await deadline (Forwarder.look setup run).1.erase.host = answer
      obtain ⟨waking, after⟩ := answer
      cases waking with
      | woken => exact ih looked.sized
      | timedOut => exact .idle rfl looked.sized
      | never => exact .stuck rfl looked.sized

-- Stale octets in the buffers play no part in an iteration.
theorem iterate_erase {run : Run σ} (setup : Setup) (sized : run.session.buffers.Sized) :
    (Forwarder.iterate setup run).erase = iterate setup run.erase ∧
      (Forwarder.iterate setup run).run.session.buffers.Sized := by
  have closing : run.erase.closing = run.session.closing := rfl
  unfold Forwarder.iterate iterate
  rw [closing]
  by_cases closed : run.session.closing = true
  · rw [if_pos closed, if_pos closed]
    exact ⟨rfl, sized⟩
  · rw [if_neg closed, if_neg closed]
    have waited : Waited (Forwarder.wait setup run) (wait setup run.erase) := waitUntil_erase setup _ _ sized
    generalize Forwarder.wait setup run = paused at waited
    generalize wait setup run.erase = pause at waited
    cases waited with
    | ready looked =>
      rw [looked.events, ← looked.erase]
      exact handle_erase setup looked.sized looked.holds
    | idle erase sized => exact ⟨by rw [← erase]; rfl, sized⟩
    | stuck erase sized => exact ⟨by rw [← erase]; rfl, sized⟩

theorem loop_erase (setup : Setup) (fuel : Nat) (run : Run σ) (sized : run.session.buffers.Sized) :
    (Forwarder.loop setup fuel run).1.erase = (loop setup fuel run.erase).1 ∧
      (Forwarder.loop setup fuel run).2 = (loop setup fuel run.erase).2 := by
  induction fuel generalizing run with
  | zero => exact ⟨rfl, rfl⟩
  | succ fuel ih =>
    obtain ⟨erased, kept⟩ := iterate_erase setup sized
    unfold Forwarder.loop loop
    rw [← erased]
    generalize Forwarder.iterate setup run = progress at kept
    obtain ⟨after, _ | ending⟩ := progress
    · exact ih after kept
    · exact ⟨rfl, rfl⟩

def started (setup : Setup) (host : σ) : Station σ :=
  ⟨Host.say (.running setup.mode) host, .running, true, false⟩

theorem run_erase (setup : Setup) (host : σ) :
    (Forwarder.run setup host).1.host = (loop setup (Host.pending host + 3) (started setup host)).1.host ∧
      (Forwarder.run setup host).2 = (loop setup (Host.pending host + 3) (started setup host)).2 := by
  have erased := loop_erase setup (Host.pending host + 3)
    ⟨{ Session.initial with phase := .running }, Host.say (.running setup.mode) host⟩ Buffers.sized_initial
  exact ⟨congrArg Station.host erased.1, erased.2⟩

end Unbuffered
end IpTunnel
