import IpTunnel.Proofs.Closing
import IpTunnel.Proofs.Opening

namespace IpTunnel

-- The second list is the first with more of this item put in, anywhere and any number of times.
inductive Padded (more : α) : List α → List α → Prop where
  | nil : Padded more [] []
  | keep (item : α) (rest : Padded more first second) : Padded more (item :: first) (item :: second)
  | pad (rest : Padded more first second) : Padded more first (more :: second)

theorem Padded.filterMap (tell : α → Option β) (silent : tell more = none) (padded : Padded more first second) :
    second.filterMap tell = first.filterMap tell := by
  induction padded with
  | nil => rfl
  | keep item rest ih => rw [List.filterMap_cons, List.filterMap_cons, ih]
  | pad rest ih => rw [List.filterMap_cons, silent, ih]

theorem Padded.mem {item : α} (padded : Padded more first second) (other : item ≠ more) (member : item ∈ second) :
    item ∈ first := by
  induction padded with
  | nil => exact member
  | keep head rest ih =>
    rcases List.mem_cons.mp member with rfl | member
    · exact List.mem_cons_self ..
    · exact List.mem_cons_of_mem _ (ih member)
  | pad rest ih =>
    rcases List.mem_cons.mp member with same | member
    · exact absurd same other
    · exact ih member

-- Waits are for nothing: as many writes get through as before.
theorem Affords.padded (padded : Padded .again first second) (affords : Affords budget first) :
    Affords budget second := by
  induction padded generalizing budget with
  | nil => exact affords
  | keep item rest ih =>
    cases budget with
    | zero => trivial
    | succ budget =>
      cases item with
      | done => exact ih affords
      | again => exact ih affords
      | failure errno => exact affords
  | pad rest ih =>
    cases budget with
    | zero => trivial
    | succ budget => exact ih affords

theorem affords_of_flawless {outgoing : List Outgoing} (flawless : ∀ errno, Outgoing.failure errno ∉ outgoing) :
    Affords budget outgoing := by
  induction outgoing generalizing budget with
  | nil => exact affords_nil budget
  | cons result rest ih =>
    have others {budget : Nat} : Affords budget rest := by
      apply ih
      intro errno member
      exact flawless errno (List.mem_cons_of_mem _ member)
    cases budget with
    | zero => trivial
    | succ budget =>
      cases result with
      | done => exact others
      | again => exact others
      | failure errno => exact absurd (List.mem_cons_self ..) (flawless errno)

-- More calls have to wait, each for an edge of its own.
structure Traffic.Delays (before after : Traffic) : Prop where
  incoming : Padded .again before.incoming after.incoming
  outgoing : Padded .again before.outgoing after.outgoing

namespace Machine

def carrying (machine : Machine) (traffic : Device → Traffic) : Machine :=
  { machine with
    tunnel := { machine.tunnel with
      incoming := (traffic .tunnel).incoming
      outgoing := (traffic .tunnel).outgoing }
    socket4 := { machine.socket4 with
      incoming := (traffic (.socket .v4)).incoming
      outgoing := (traffic (.socket .v4)).outgoing }
    socket6 := { machine.socket6 with
      incoming := (traffic (.socket .v6)).incoming
      outgoing := (traffic (.socket .v6)).outgoing } }

variable {setup : Setup} {machine : Machine} {traffic : Device → Traffic}

theorem traffic_carrying (machine : Machine) (traffic : Device → Traffic) (device : Device) :
    (machine.carrying traffic).traffic device = traffic device := by
  rcases device with _ | _ | _ <;> rfl

theorem reports_carrying (machine : Machine) (traffic : Device → Traffic) (device : Device) :
    (machine.carrying traffic).reports device = machine.reports device := by
  rcases device with _ | _ | _ <;> rfl

theorem arrivals_carrying (delays : ∀ device, (machine.traffic device).Delays (traffic device)) :
    (machine.carrying traffic).arrivals setup = machine.arrivals setup := by
  funext device
  have datagrams := (delays device).incoming.filterMap Incoming.datagram? rfl
  simp only [arrivals, descriptor, Descriptor.opened, Descriptor.arrivals, Descriptor.datagrams, traffic_carrying,
    reports_carrying, datagrams]

end Machine

namespace Tunnel

theorem create_carrying (name : String) (framing : Bool) (node : TunNode) (traffic : Traffic) :
    (TunDevice.create name framing
        { node with incoming := traffic.incoming, outgoing := traffic.outgoing }).outcome.isOk =
      (TunDevice.create name framing node).outcome.isOk := by
  unfold TunDevice.create
  simp only
  split
  · rfl
  · split
    · rfl
    · split <;> rfl

theorem listen_carrying (address : IpAddress) (port : UInt16) (node : UdpNode) (traffic : Traffic) :
    (UdpSocket.listen address port
        { node with incoming := traffic.incoming, outgoing := traffic.outgoing }).outcome.isOk =
      (UdpSocket.listen address port node).outcome.isOk := by
  have same : UdpSocket.attempts (.of address port)
        { node with incoming := traffic.incoming, outgoing := traffic.outgoing } =
      UdpSocket.attempts (.of address port) node := rfl
  simp only [UdpSocket.listen, same]
  cases (UdpSocket.attemptAll (UdpSocket.attempts (.of address port) node)).outcome with
  | error cause => rfl
  | ok => cases node.nameFailure <;> rfl

theorem openSocket_carrying (setup : Setup) (family : Family) (node : UdpNode) (traffic : Traffic) :
    (openSocket setup family
        { node with incoming := traffic.incoming, outgoing := traffic.outgoing }).outcome.isOk =
      (openSocket setup family node).outcome.isOk := by
  have mapped (outcome : Except IoError UdpSocket) : (outcome.map some).isOk = outcome.isOk := by
    cases outcome <;> rfl
  unfold openSocket
  split
  · rfl
  · simp only [mapped]
    exact listen_carrying _ _ node traffic

theorem ready?_isSome (setup : Setup) (machine : Machine) (directory : Directory) :
    (ready? setup machine directory).isSome =
      ((TunDevice.create setup.tunName setup.framing machine.tunnel).outcome.isOk &&
        (openSocket setup .v4 machine.socket4).outcome.isOk && (openSocket setup .v6 machine.socket6).outcome.isOk &&
        (captureFile setup directory).isOk) := by
  simp only [ready?]
  generalize (TunDevice.create setup.tunName setup.framing machine.tunnel).outcome = created
  generalize (openSocket setup .v4 machine.socket4).outcome = opened4
  generalize (openSocket setup .v6 machine.socket6).outcome = opened6
  generalize captureFile setup directory = captured
  cases created <;> cases opened4 <;> cases opened6 <;> cases captured <;> rfl

theorem ready?_carrying (setup : Setup) (machine : Machine) (traffic : Device → Traffic) (directory : Directory) :
    (ready? setup (machine.carrying traffic) directory).isSome = (ready? setup machine directory).isSome := by
  rw [ready?_isSome, ready?_isSome]
  simp only [Machine.carrying, create_carrying, openSocket_carrying]

namespace Finished

def posted (finished : Finished) (family : Family) : List (Bytes × Endpoint) :=
  (finished.calls (.socket family)).filterMap Call.posted?

def written (finished : Finished) : List Bytes := (finished.calls .tunnel).filterMap Call.written?

end Finished

def iterations (setup : Setup) (machine : Machine) (directory : Directory) : List (Stages Kernel) :=
  ((ready? setup machine directory).map (Forwarder.iterations setup)).getD []

def frames (setup : Setup) (machine : Machine) (directory : Directory) (family : Family) : List Bytes :=
  (iterations setup machine directory).flatMap (·.frames family)

end Tunnel

-- Everything can be opened, and no call fails that is ever made; all that comes can be used, and nobody asks for
-- an end.
structure Untroubled (setup : Setup) (machine : Machine) (directory : Directory) : Prop where
  limited : setup.idleTimeout.isSome = true
  unsignalled : machine.signal = .never
  opened : (Tunnel.ready? setup machine directory).isSome = true
  reads : ∀ device, setup.has device = true → ∀ errno, Incoming.failure errno ∉ (machine.traffic device).incoming
  reports : ∀ device, setup.has device = true → ∀ entry ∈ machine.reports device, entry.Decodable
  -- Only as many results count as there are calls.
  writes : ∀ device, setup.has device = true →
    Affords (owed setup (machine.arrivals setup) device) (machine.traffic device).outgoing
  resolved : Resolved setup (machine.arrivals setup .tunnel)

namespace Untroubled

variable {setup : Setup} {machine : Machine} {directory : Directory} {traffic : Device → Traffic}

theorem carrying (untroubled : Untroubled setup machine directory)
    (delays : ∀ device, (machine.traffic device).Delays (traffic device)) :
    Untroubled setup (machine.carrying traffic) directory where
  limited := untroubled.limited
  unsignalled := untroubled.unsignalled
  opened := (Tunnel.ready?_carrying setup machine traffic directory).trans untroubled.opened
  reads device present errno failing := by
    have other : Incoming.failure errno ≠ .again := by simp
    rw [Machine.traffic_carrying] at failing
    exact untroubled.reads device present errno ((delays device).incoming.mem other failing)
  reports device present := by
    rw [Machine.reports_carrying]
    exact untroubled.reports device present
  writes device present := by
    rw [Machine.arrivals_carrying delays, Machine.traffic_carrying]
    exact (untroubled.writes device present).padded (delays device).outgoing
  resolved := by
    rw [Machine.arrivals_carrying delays]
    exact untroubled.resolved

end Untroubled

def Arrival.posted? (setup : Setup) (family : Family) : Arrival → Option (Bytes × Endpoint)
  | .report _ => none
  | .data octets =>
    match verdict setup (octets.take bufferLength) with
    | .forwarded member packet peer => if member = family then some (packet, peer) else none
    | _ => none

def Arrival.frame? (setup : Setup) (family : Family) (arrival : Arrival) : Option Bytes :=
  (arrival.delivery? roomLength).bind (inbound setup family)

theorem posted_called (setup : Setup) (arrivals : Device → List Arrival) (family : Family) :
    (callsOn (called setup arrivals .tunnel) (.socket family)).filterMap Call.posted? =
      (arrivals .tunnel).filterMap (Arrival.posted? setup family) := by
  unfold called
  induction arrivals .tunnel with
  | nil => rfl
  | cons arrival rest ih =>
    rw [List.flatMap_cons, callsOn_append, List.filterMap_append, ih, List.filterMap_cons]
    cases arrival with
    | report entry => rfl
    | data octets =>
      simp only [Arrival.deeds, Arrival.posted?]
      cases verdict setup (octets.take bufferLength) with
      | dropped => rfl
      | unknown target => rfl
      | forwarded member packet peer =>
        rw [Verdict.deeds, callsOn_cons _ _ rfl]
        by_cases same : member = family
        · subst same
          simp only [only_self, if_true]
          rfl
        · have other : Device.socket family ≠ .socket member := by
            intro equal
            cases equal
            exact same rfl
          simp only [only_other _ other, same, if_false]
          rfl

theorem brought_eq (setup : Setup) (arrivals : Device → List Arrival) (family : Family) :
    brought setup arrivals family = (arrivals (.socket family)).filterMap (Arrival.frame? setup family) := by
  unfold brought called
  induction arrivals (.socket family) with
  | nil => rfl
  | cons arrival rest ih =>
    rw [List.flatMap_cons, callsOn_append, List.filterMap_append, ih, List.filterMap_cons]
    simp only [Arrival.deeds, Arrival.frame?]
    cases (arrival.delivery? roomLength).bind (inbound setup family) <;> rfl

-- What a run does with all that arrives: a law that waits have no part in.
structure Accounted (setup : Setup) (machine : Machine) (directory : Directory) : Prop where
  ending : (Tunnel.run setup machine directory).ending = .stopped .idle
  posted : ∀ family, (Tunnel.run setup machine directory).posted family =
    (machine.arrivals setup .tunnel).filterMap (Arrival.posted? setup family)
  frames : ∀ family, Tunnel.frames setup machine directory family =
    (machine.arrivals setup (.socket family)).filterMap (Arrival.frame? setup family)
  written : (Tunnel.run setup machine directory).written =
    (Tunnel.iterations setup machine directory).flatMap fun stages => stages.frames .v4 ++ stages.frames .v6

theorem posted_eq (kernel : Kernel) (family : Family) :
    (Tunnel.callsOf (kernel.socket family)).filterMap Call.posted? =
      (kernel.done (.socket family)).filterMap Call.posted? := by
  simp only [Tunnel.callsOf, Kernel.done, Kernel.descriptor?]
  cases kernel.socket family with
  | none => rfl
  | some socket =>
    refine (Descriptor.filterMap_done socket.descriptor ?_).symm
    rintro (_ | _ | _ | _ | _ | _ | ⟨packet, peer, _ | errno⟩) lost <;> first | rfl | cases lost

theorem Untroubled.accounted {setup : Setup} {machine : Machine} {directory : Directory}
    (untroubled : Untroubled setup machine directory) : Accounted setup machine directory := by
  obtain ⟨ready, opened⟩ := Option.isSome_iff_exists.mp untroubled.opened
  obtain ⟨timeout, limited⟩ := Option.isSome_iff_exists.mp untroubled.limited
  have each (device : Device) (present : setup.has device = true) :
      (machine.descriptor device).Steady (owed setup (machine.arrivals setup) device) :=
    Descriptor.steady_opened (untroubled.reads device present) (untroubled.writes device present)
      (untroubled.reports device present)
  have fresh := Tunnel.ready?_fresh opened untroubled.unsignalled each
  have resolved := untroubled.resolved
  have steady := fresh.steady
  rw [← fresh.arrivals] at resolved steady
  obtain ⟨idle, ended⟩ := Forwarder.run_ended limited resolved steady
  obtain ⟨ending, tunnelCalls, calls4, calls6⟩ := Tunnel.run_ready opened
  have iterations : Tunnel.iterations setup machine directory = Forwarder.iterations setup ready := by
    rw [Tunnel.iterations, opened]
    rfl
  refine ⟨ending.trans idle, ?_, ?_, ?_⟩
  · intro family
    have posted := posted_eq (Forwarder.run setup ready).1.host family
    rw [ended.sent, fresh.done, fresh.arrivals, List.nil_append, posted_called] at posted
    rw [← posted]
    cases family with
    | v4 =>
      rw [Tunnel.Finished.posted, Tunnel.Finished.calls, calls4, List.filterMap_append, Tunnel.openSocket_unsent]
      rfl
    | v6 =>
      rw [Tunnel.Finished.posted, Tunnel.Finished.calls, calls6, List.filterMap_append, Tunnel.openSocket_unsent]
      rfl
  · intro family
    rw [Tunnel.frames, iterations, ended.frames, fresh.arrivals, brought_eq]
  · have start : ready.written = [] := by
      rw [Kernel.written_eq, fresh.done]
      rfl
    have written := ended.written
    rw [start, List.nil_append] at written
    rw [iterations, ← written, Tunnel.Finished.written, Tunnel.Finished.calls, tunnelCalls, List.filterMap_append,
      TunDevice.create_unwritten, List.nil_append, Kernel.written]
    cases (Forwarder.run setup ready).1.host.tunnel <;> rfl

-- A run and the same run with more waits: both do all that is called for before they end by idling, and tell the
-- same of each socket.
structure Unmoved (setup : Setup) (directory : Directory) (machine delayed : Machine) : Prop where
  accounted : ∀ either ∈ [machine, delayed], Accounted setup either directory
  posted : ∀ family, (Tunnel.run setup delayed directory).posted family =
    (Tunnel.run setup machine directory).posted family
  frames : ∀ family, Tunnel.frames setup delayed directory family = Tunnel.frames setup machine directory family

-- On an untroubled run a call that has to wait for the next edge costs nothing but the wait.
theorem run_delayed {setup : Setup} {machine : Machine} {directory : Directory} {traffic : Device → Traffic}
    (untroubled : Untroubled setup machine directory)
    (delays : ∀ device, (machine.traffic device).Delays (traffic device)) :
    Unmoved setup directory machine (machine.carrying traffic) := by
  have before := untroubled.accounted
  have after := (untroubled.carrying delays).accounted
  refine ⟨?_, ?_, ?_⟩
  · intro either member
    rcases List.mem_cons.mp member with rfl | member
    · exact before
    · obtain rfl := List.mem_singleton.mp member
      exact after
  · intro family
    rw [after.posted, before.posted, Machine.arrivals_carrying delays]
  · intro family
    rw [after.frames, before.frames, Machine.arrivals_carrying delays]

def unhurried : Setup := { restingSetup 0 with idleTimeout := some 1000 }

def smallPacket6 : Bytes := 0x60 :: List.replicate 23 0 ++ (uniqueLocal 2).octets

def unreachableHost : Report :=
  .message smallPacket [⟨0, 11, [113, 0, 0, 0, 2, 3, 1, 0, 0, 0, 0, 0, 0, 0, 0, 0, 2, 0, 0, 0, 192, 0, 2, 1]⟩]

-- Packets in both directions and a report, with hardly a wait.
def prompt : Machine where
  tunnel := ⟨none, none, none, [.data smallPacket, .data smallPacket6], [.done]⟩
  socket4 := ⟨none, [], none, none, none, [.data smallPacket], [.again, .done], [unreachableHost]⟩
  socket6 := ⟨none, [], none, none, none, [.data smallPacket6], [], []⟩
  signal := .never
  sleep := id
  turns _ := ⟨[], ⟨0, 0⟩⟩

def sluggish : Device → Traffic
  | .tunnel => ⟨[.again, .data smallPacket, .again, .again, .data smallPacket6], [.again, .done, .again]⟩
  | .socket .v4 => ⟨[.data smallPacket, .again], [.again, .again, .done]⟩
  | .socket .v6 => ⟨[.again, .data smallPacket6], [.again]⟩

theorem prompt_untroubled : Untroubled unhurried prompt ⟨[]⟩ where
  limited := rfl
  unsignalled := rfl
  opened := by decide +kernel
  reads device _ := by rcases device with _ | _ | _ <;> simp [Machine.traffic, prompt]
  reports device _ entry member := by
    rcases device with _ | _ | _
    · cases member
    · obtain rfl := List.mem_singleton.mp member
      exact ⟨_, rfl⟩
    · cases member
  writes device _ := by
    apply affords_of_flawless
    rcases device with _ | _ | _ <;> simp [Machine.traffic, prompt]
  resolved octets member target unknown := by
    have all : prompt.arrivals unhurried .tunnel = [.data smallPacket, .data smallPacket6] := rfl
    have forwarded (packet : Bytes) (among : packet ∈ [smallPacket, smallPacket6]) :
        (verdict unhurried (packet.take bufferLength)).datagram?.isSome = true := by
      revert packet
      decide +kernel
    rw [all] at member
    have sent := forwarded octets (by simpa using member)
    rw [unknown] at sent
    cases sent

theorem sluggish_delays (device : Device) : (prompt.traffic device).Delays (sluggish device) := by
  rcases device with _ | _ | _
  · exact ⟨.pad (.keep _ (.pad (.pad (.keep _ .nil)))), .pad (.keep _ (.pad .nil))⟩
  · exact ⟨.keep _ (.pad .nil), .keep _ (.pad (.keep _ .nil))⟩
  · exact ⟨.pad (.keep _ .nil), .pad .nil⟩

theorem run_delayed_sluggish :
    Untroubled unhurried prompt ⟨[]⟩ ∧ (∀ device, (prompt.traffic device).Delays (sluggish device)) ∧
      Unmoved unhurried ⟨[]⟩ prompt (prompt.carrying sluggish) ∧
      (Tunnel.run unhurried prompt ⟨[]⟩).posted .v4 = [(smallPacket, .v4 (.ofOctets 192 0 2 10) 5000)] ∧
      (Tunnel.frames unhurried prompt ⟨[]⟩ .v4).length = 2 ∧
      Tunnel.frames unhurried prompt ⟨[]⟩ .v6 = [smallPacket6] := by
  have unmoved := run_delayed prompt_untroubled sluggish_delays
  exact ⟨prompt_untroubled, sluggish_delays, unmoved, by decide +kernel, by decide +kernel, by decide +kernel⟩

end IpTunnel
