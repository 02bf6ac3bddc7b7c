import IpTunnel.Forwarder.Plan

namespace IpTunnel

inductive Ending where
  | stopped (reason : StopReason)
  | failed (cause : TunnelError)
  -- A length led outside its buffer.
  | overran
  -- Everything waits for what will never happen.
  | stuck
deriving DecidableEq

-- What the loop itself remembers. It listens until it has heard of a shutdown, and closes once one
-- was asked for.
structure Session where
  buffers : Buffers
  phase : Phase
  listening : Bool
  closing : Bool

def Session.initial : Session := ⟨.initial, .ready, true, false⟩

structure Events where
  news : Option News
  tunnel : Option (Except IoError Nat)
  socket4 : Option (Except IoError Received)
  socket6 : Option (Except IoError Received)

def Events.isReady (events : Events) : Bool :=
  events.news.isSome || events.tunnel.isSome || events.socket4.isSome || events.socket6.isSome

structure Run (σ : Type) where
  session : Session
  host : σ

structure Progress (σ : Type) where
  run : Run σ
  ending : Option Ending

namespace Forwarder

variable {σ : Type} [Host σ]

def say (notice : Notice) (run : Run σ) : Run σ := { run with host := Host.say notice run.host }

def Progress.andThen (progress : Progress σ) (next : Run σ → Progress σ) : Progress σ :=
  match progress.ending with
  | some _ => progress
  | none => next progress.run

def receive (setup : Setup) (family : Family) (run : Run σ) : Run σ × Option (Except IoError Received) :=
  if setup.hasSocket family then
    let buffer := run.session.buffers.datagram family
    let polled := Host.receive family (buffer.drop framingLength) run.host
    let buffers := run.session.buffers.withDatagram family (Buffers.behindFraming buffer polled.buffer)
    (⟨{ run.session with buffers := buffers }, polled.host⟩, polled.outcome)
  else (run, none)

def readTunnel (run : Run σ) : Run σ × Option (Except IoError Nat) :=
  let polled := Host.readTunnel run.session.buffers.tunnel run.host
  let buffers := { run.session.buffers with tunnel := polled.buffer }
  (⟨{ run.session with buffers := buffers }, polled.host⟩, polled.outcome)

def hear (run : Run σ) : Run σ × Option News :=
  if run.session.listening then
    let heard := Host.hear run.host
    ({ run with host := heard.2 }, heard.1)
  else (run, none)

def look (setup : Setup) (run : Run σ) : Run σ × Events :=
  let (run, news) := hear run
  let (run, tunnel) := readTunnel run
  let (run, socket4) := receive setup .v4 run
  let (run, socket6) := receive setup .v6 run
  (run, ⟨news, tunnel, socket4, socket6⟩)

inductive Wait (σ : Type) where
  | ready (run : Run σ) (events : Events)
  | idle (run : Run σ)
  | stuck (run : Run σ)

-- An event that is ready at the deadline comes before it.
def waitUntil (setup : Setup) (deadline : Option Nat) : Nat → Run σ → Wait σ
  | 0, run => .stuck run
  | fuel + 1, run =>
    let (run, events) := look setup run
    if events.isReady then .ready run events
    else
      match Host.await deadline run.host with
      | (.woken, host) => waitUntil setup deadline fuel { run with host := host }
      | (.timedOut, host) => .idle { run with host := host }
      | (.never, host) => .stuck { run with host := host }

def wait (setup : Setup) (run : Run σ) : Wait σ :=
  waitUntil setup (setup.idleTimeout.map (Host.now run.host + ·)) (Host.pending run.host + 1) run

def perform (run : Run σ) : List Deed → Progress σ
  | [] => ⟨run, none⟩
  | .say notice :: rest => perform (say notice run) rest
  | .capture packet :: rest => perform { run with host := Host.capture packet run.host } rest
  | .send family packet peer :: rest =>
    match Host.send family packet peer run.host with
    | (some (.ok ()), host) => perform { run with host := host } rest
    | (some (.error cause), host) => ⟨{ run with host := host }, some (.failed (.socketWrite cause))⟩
    | (none, host) => ⟨{ run with host := host }, some .stuck⟩
  | .write frame :: rest =>
    match Host.write frame run.host with
    | (some (.ok ()), host) => perform { run with host := host } rest
    | (some (.error cause), host) => ⟨{ run with host := host }, some (.failed (.tunnelWrite cause))⟩
    | (none, host) => ⟨{ run with host := host }, some .stuck⟩
  | .fail cause :: _ => ⟨run, some (.failed cause)⟩
  | .overrun :: _ => ⟨run, some .overran⟩

def handleTunnel (setup : Setup) (event : Option (Except IoError Nat)) (run : Run σ) : Progress σ :=
  match event with
  | none => ⟨run, none⟩
  | some (.error cause) => ⟨run, some (.failed (.tunnelRead cause))⟩
  | some (.ok length) =>
    match run.session.buffers.tunnel.slice? 0 length with
    | none => ⟨run, some .overran⟩
    | some frame => perform run (Plan.ofFrame setup frame)

def handleDatagram (setup : Setup) (family : Family) (length : Nat) (run : Run σ) : Progress σ :=
  let plan := Plan.ofDatagram setup family (run.session.buffers.datagram family) length
  let buffers := run.session.buffers.withDatagram family plan.buffer
  perform { run with session := { run.session with buffers := buffers } } plan.deeds

def handleReport (setup : Setup) (family : Family) (error : ExtendedError) (length : Nat) (run : Run σ) :
    Progress σ :=
  let buffers := run.session.buffers
  let plan := Plan.ofReport setup family error (buffers.datagram family) length buffers.forged
  perform { run with session := { run.session with buffers := { buffers with forged := plan.buffer } } } plan.deeds

def handleSocket (setup : Setup) (family : Family) (event : Option (Except IoError Received)) (run : Run σ) :
    Progress σ :=
  match event with
  | none => ⟨run, none⟩
  | some (.error cause) => ⟨run, some (.failed (.socketRead cause))⟩
  | some (.ok (.datagram length)) => handleDatagram setup family length run
  | some (.ok (.report error length)) => handleReport setup family error length run

def handleNews (news : Option News) (run : Run σ) : Run σ :=
  match news with
  | none => run
  | some .requested => { run with session := { run.session with closing := true } }
  | some .lost => { say .shutdownLost run with session := { run.session with listening := false } }

def handle (setup : Setup) (events : Events) (run : Run σ) : Progress σ :=
  Progress.andThen (handleTunnel setup events.tunnel (handleNews events.news run)) fun run =>
    Progress.andThen (handleSocket setup .v4 events.socket4 run) (handleSocket setup .v6 events.socket6)

-- Acknowledgements still on their way can arrive during the grace period; nothing is read in it.
def close (setup : Setup) (run : Run σ) : Progress σ :=
  let run := say (.shuttingDown setup.closeTimeout) { run with session := { run.session with phase := .shuttingDown } }
  ⟨{ run with host := Host.rest setup.closeTimeout run.host }, some (.stopped .shutdown)⟩

def iterate (setup : Setup) (run : Run σ) : Progress σ :=
  if run.session.closing then close setup run
  else
    match wait setup run with
    | .ready run events => handle setup events run
    | .idle run => ⟨say .noActivity run, some (.stopped .idle)⟩
    | .stuck run => ⟨run, some .stuck⟩

def loop (setup : Setup) : Nat → Run σ → Run σ × Ending
  | 0, run => (run, .stuck)
  | fuel + 1, run =>
    match iterate setup run with
    | ⟨run, some ending⟩ => (run, ending)
    | ⟨run, none⟩ => loop setup fuel run

def run (setup : Setup) (host : σ) : Run σ × Ending :=
  let started := say (.running setup.mode) ⟨{ Session.initial with phase := .running }, host⟩
  let (finished, ending) := loop setup (Host.pending host + 3) started
  (⟨{ finished.session with phase := .stopped }, finished.host⟩, ending)

end Forwarder

end IpTunnel
