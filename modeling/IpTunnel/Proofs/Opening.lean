import IpTunnel.Proofs.Attribution
import IpTunnel.Tunnel

namespace IpTunnel

structure Traffic where
  incoming : List Incoming
  outgoing : List Outgoing

namespace Machine

def traffic (machine : Machine) : Device → Traffic
  | .tunnel => ⟨machine.tunnel.incoming, machine.tunnel.outgoing⟩
  | .socket .v4 => ⟨machine.socket4.incoming, machine.socket4.outgoing⟩
  | .socket .v6 => ⟨machine.socket6.incoming, machine.socket6.outgoing⟩

def reports (machine : Machine) : Device → List Report
  | .tunnel => []
  | .socket .v4 => machine.socket4.reports
  | .socket .v6 => machine.socket6.reports

def descriptor (machine : Machine) (device : Device) : Descriptor :=
  .opened (machine.traffic device).incoming (machine.traffic device).outgoing (machine.reports device)

-- All that arrives on the devices of a setup.
def arrivals (setup : Setup) (machine : Machine) (device : Device) : List Arrival :=
  if setup.has device then (machine.descriptor device).arrivals else []

end Machine

def Call.posted? : Call → Option (Bytes × Endpoint)
  | .sendTo packet peer none => some (packet, peer)
  | _ => none

namespace TunDevice

theorem create_descriptor {name : String} {framing : Bool} {node : TunNode} {device : TunDevice}
    (created : (create name framing node).outcome = .ok device) :
    device.descriptor = .opened node.incoming node.outgoing [] := by
  unfold create at created
  split at created
  · cases created
  · simp only at created
    split at created
    · cases created
    · split at created
      · cases created
      · cases created
        rfl

theorem create_unwritten (name : String) (framing : Bool) (node : TunNode) :
    (create name framing node).calls.filterMap Call.written? = [] := by
  unfold create
  split
  · rfl
  · simp only
    split
    · rfl
    · split <;> rfl

end TunDevice

namespace UdpSocket

theorem attemptAll_calls (attempts : List Attempt) :
    (attemptAll attempts).calls.Sublist (attempts.map (·.call)) := by
  induction attempts with
  | nil => exact .slnil
  | cons attempt rest ih =>
    unfold attemptAll
    split
    · exact .cons_cons _ (List.nil_sublist _)
    · exact .cons_cons _ ih

theorem attempts_unsent (endpoint : Endpoint) (node : UdpNode) :
    ((attempts endpoint node).map (·.call)).filterMap Call.posted? = [] := by
  unfold attempts
  cases endpoint.family <;> rfl

theorem listen_unsent (address : IpAddress) (port : UInt16) (node : UdpNode) :
    (listen address port node).calls.filterMap Call.posted? = [] := by
  have calls : (listen address port node).calls = (attemptAll (attempts (Endpoint.of address port) node)).calls := by
    unfold listen
    simp only
    split <;> rfl
  have among := (attemptAll_calls (attempts (Endpoint.of address port) node)).filterMap Call.posted?
  rw [attempts_unsent] at among
  rw [calls]
  exact List.sublist_nil.mp among

theorem listen_descriptor {address : IpAddress} {port : UInt16} {node : UdpNode} {socket : UdpSocket}
    (listening : (listen address port node).outcome = .ok socket) :
    socket.descriptor = .opened node.incoming node.outgoing node.reports := by
  unfold listen at listening
  simp only at listening
  split at listening
  · cases listening
  · cases listening
  · cases listening
    rfl

end UdpSocket

namespace Tunnel

def Finished.calls (finished : Finished) : Device → List Call
  | .tunnel => finished.tunnelCalls
  | .socket .v4 => finished.calls4
  | .socket .v6 => finished.calls6

theorem openSocket_unsent (setup : Setup) (family : Family) (node : UdpNode) :
    (openSocket setup family node).calls.filterMap Call.posted? = [] := by
  unfold openSocket
  split
  · rfl
  · exact UdpSocket.listen_unsent _ _ _

theorem openSocket_descriptor {setup : Setup} {family : Family} {node : UdpNode} {found : Option UdpSocket}
    (opened : (openSocket setup family node).outcome = .ok found) :
    found.map (·.descriptor) =
      if setup.hasSocket family then some (.opened node.incoming node.outgoing node.reports) else none := by
  unfold openSocket at opened
  unfold Setup.hasSocket
  split at opened
  · rename_i absent
    cases opened
    rw [absent]
    rfl
  · rename_i address present
    rw [present]
    cases listening : (UdpSocket.listen address setup.port node).outcome with
    | error cause => simp [listening, Except.map] at opened
    | ok socket =>
      simp only [listening, Except.map, Except.ok.injEq] at opened
      rw [← opened]
      exact congrArg some (UdpSocket.listen_descriptor listening)

def ready? (setup : Setup) (machine : Machine) (directory : Directory) : Option Kernel :=
  let device := TunDevice.create setup.tunName setup.framing machine.tunnel
  let socket4 := openSocket setup .v4 machine.socket4
  let socket6 := openSocket setup .v6 machine.socket6
  match device.outcome, socket4.outcome, socket6.outcome, captureFile setup directory with
  | .ok tunnel, .ok found4, .ok found6, .ok file =>
    let log := device.notices ++ socket4.notices ++ socket6.notices ++ (setup.capturePath.map .capturing).toList
    some ((initialSleep setup (kernel machine tunnel found4 found6 file.isSome log)).say
      [.forwarding tunnel.name setup.peers.size setup.mode])
  | _, _, _, _ => none

-- A kernel at the start of a run has all its arrivals still to come.
structure Fresh (setup : Setup) (budget : Device → Nat) (machine : Machine) (ready : Kernel) : Prop where
  steady : ready.Steady setup budget
  arrivals : ready.arrivals = machine.arrivals setup
  done : ∀ device, ready.done device = []

variable {setup : Setup} {budget : Device → Nat} {machine : Machine} {directory : Directory} {ready : Kernel}

theorem initialSleep_advances {start : Kernel} (steady : start.Steady setup budget) :
    start.Advances budget (initialSleep setup start) nothing nothing := by
  unfold initialSleep
  split
  · exact .refl steady
  · have announces := Kernel.say_advances [.waiting setup.initialSleep] steady
    have settles := announces.onward (Kernel.settle_advances (announces.steady steady))
    have before := settles.onward (Kernel.wake_advances (settles.steady steady))
    unfold Kernel.rest
    have calm : ((start.say [.waiting setup.initialSleep]).settle.wake).signal = .never := steady.signal
    simp only [calm]
    exact before.onward (Kernel.late_advances (before.steady steady) _)

theorem fresh_opened {tunnel : TunDevice} {found4 found6 : Option UdpSocket} (capturing : Bool)
    (log notices : List Notice) (same : tunnel.descriptor = machine.descriptor .tunnel)
    (same4 : found4.map (·.descriptor) =
      if setup.hasSocket .v4 then some (machine.descriptor (.socket .v4)) else none)
    (same6 : found6.map (·.descriptor) =
      if setup.hasSocket .v6 then some (machine.descriptor (.socket .v6)) else none)
    (unsignalled : machine.signal = .never)
    (each : ∀ device, setup.has device = true → (machine.descriptor device).Steady (budget device)) :
    Fresh setup budget machine
      ((initialSleep setup (kernel machine tunnel found4 found6 capturing log)).say notices) := by
  have descriptors (device : Device) : (kernel machine tunnel found4 found6 capturing log).descriptor? device =
      if setup.has device = true then some (machine.descriptor device) else none := by
    rcases device with _ | _ | _
    · exact congrArg some same
    · exact same4
    · exact same6
  have steady : (kernel machine tunnel found4 found6 capturing log).Steady setup budget := by
    refine ⟨unsignalled, ?_, ?_, ?_⟩
    · intro device
      rw [descriptors]
      cases setup.has device <;> rfl
    · intro device descriptor found
      rw [descriptors, Option.ite_none_right_eq_some] at found
      obtain ⟨present, same⟩ := found
      cases same
      exact each device present
    · intro descriptor found
      rw [descriptors] at found
      cases found
      rfl
  have sleeps := initialSleep_advances steady
  have step := sleeps.onward (Kernel.say_advances notices (sleeps.steady steady))
  refine ⟨step.steady steady, ?_, ?_⟩
  · funext device
    refine (step.arrivals device).symm.trans ?_
    rw [Kernel.arrivals, descriptors, Machine.arrivals]
    cases setup.has device <;> rfl
  · intro device
    refine (step.done device).trans ?_
    rw [Kernel.done, descriptors]
    cases setup.has device <;> rfl

theorem ready?_fresh (opened : ready? setup machine directory = some ready) (unsignalled : machine.signal = .never)
    (each : ∀ device, setup.has device = true → (machine.descriptor device).Steady (budget device)) :
    Fresh setup budget machine ready := by
  unfold ready? at opened
  simp only at opened
  split at opened
  · rename_i created opened4 opened6 _
    cases opened
    exact fresh_opened _ _ _ (TunDevice.create_descriptor created) (openSocket_descriptor opened4)
      (openSocket_descriptor opened6) unsignalled each
  · cases opened

-- What a run leaves once all is open: the forwarder's ending and its calls after those of the opening.
theorem run_ready (opened : ready? setup machine directory = some ready) :
    (run setup machine directory).ending = (Forwarder.run setup ready).2 ∧
      (run setup machine directory).tunnelCalls =
        (TunDevice.create setup.tunName setup.framing machine.tunnel).calls ++
          ((Forwarder.run setup ready).1.host.tunnel.map (·.descriptor.calls)).getD [] ∧
      (run setup machine directory).calls4 = (openSocket setup .v4 machine.socket4).calls ++
        callsOf (Forwarder.run setup ready).1.host.socket4 ∧
      (run setup machine directory).calls6 = (openSocket setup .v6 machine.socket6).calls ++
        callsOf (Forwarder.run setup ready).1.host.socket6 := by
  unfold ready? at opened
  simp only at opened
  split at opened
  · rename_i tunnel found4 found6 file created opened4 opened6 captured
    cases opened
    unfold run
    simp only [created, opened4, opened6, captured]
    exact ⟨rfl, rfl, rfl, rfl⟩
  · cases opened

end Tunnel

end IpTunnel
