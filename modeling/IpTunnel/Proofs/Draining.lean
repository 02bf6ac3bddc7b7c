import IpTunnel.Proofs.SteadyKernel
import IpTunnel.Proofs.Transparent
import Mathlib.Data.List.Basic

namespace IpTunnel

-- The deeds that leave a trace and that an arrival calls for, with the device that it came to.
def Arrival.deeds (setup : Setup) : Device → Arrival → List Deed
  | .tunnel, .data octets => (verdict setup (octets.take bufferLength)).deeds
  | .tunnel, .report _ => []
  | .socket family, arrival => (((arrival.delivery? roomLength).bind (inbound setup family)).map Deed.write).toList

def called (setup : Setup) (taken : Device → List Arrival) (device : Device) : List Deed :=
  (taken device).flatMap (Arrival.deeds setup device)

theorem called_append (setup : Setup) (first second : Device → List Arrival) (device : Device) :
    called setup (fun other => first other ++ second other) device =
      called setup first device ++ called setup second device := List.flatMap_append

def Intake.deedsFor (setup : Setup) (intake : Intake) : Device → List Deed
  | .tunnel => Deed.ofTunnel setup intake.tunnel
  | .socket family => Deed.ofSocket setup family (intake.socket family)

-- A socket's delivery calls for the deeds of the arrivals from which it was drawn.
theorem loud_drawn {setup : Setup} {family : Family} {taken : List Arrival} {found : Option Delivery}
    (told : taken.filterMap (Arrival.delivery? roomLength) = found.toList) :
    loud (Deed.ofSocket setup family (found.map .ok)) = taken.flatMap (Arrival.deeds setup (.socket family)) := by
  have frames : taken.flatMap (Arrival.deeds setup (.socket family)) =
      ((taken.filterMap (Arrival.delivery? roomLength)).filterMap (inbound setup family)).map Deed.write := by
    rw [List.filterMap_filterMap, List.map_filterMap, List.filterMap_eq_flatMap_toList]
    rfl
  rw [loud_ofSocket, frames, told]
  cases found with
  | none => rfl
  | some delivery =>
    simp only [Option.map_some, inboundDeeds, Option.toList_some]
    cases called : inbound setup family delivery <;> simp [called]

namespace Kernel

def Dry (kernel : Kernel) (device : Device) : Prop :=
  ∀ descriptor, kernel.descriptor? device = some descriptor →
    descriptor.readable = false ∧ (descriptor.failing = false ∨ descriptor.reports = [])

-- A poll of one device took these arrivals; an event is ready if they call for anything at all.
structure Takes (setup : Setup) (budget : Device → Nat) (device : Device) (before after : Kernel)
    (taken : List Arrival) (deeds : List Deed) (ready : Bool) : Prop where
  advances : before.Advances budget after (only device taken) nothing
  others : ∀ other, other ≠ device → after.descriptor? other = before.descriptor? other
  deeds : loud deeds = taken.flatMap (Arrival.deeds setup device)
  busy : ready = true → taken ≠ []
  dry : ready = false → after.Dry device

variable {setup : Setup} {budget : Device → Nat} {kernel : Kernel}

theorem Advances.quiet {before after : Kernel} {taken : Device → List Arrival} {device : Device}
    (advances : before.Advances budget after taken (only device [])) :
    before.Advances budget after taken nothing := by
  rwa [only_nil] at advances

theorem pullTunnel_takes (steady : kernel.Steady setup budget) :
    ∃ after taken event, Pulls.pullTunnel kernel = (after, event) ∧
      Takes setup budget .tunnel kernel after taken (Deed.ofTunnel setup event) event.isSome := by
  obtain ⟨device, found⟩ := steady.tunnel
  have known : kernel.descriptor? .tunnel = some device.descriptor := congrArg (Option.map _) found
  have calm := steady.each .tunnel device.descriptor known
  have unreported := steady.unreported device.descriptor known
  have others (new : Descriptor) (other : Device) (different : other ≠ .tunnel) :
      descriptor? { kernel with tunnel := some { device with descriptor := new } } other =
        kernel.descriptor? other := by
    rcases other with _ | _ | _
    · exact absurd rfl different
    · rfl
    · rfl
  change ∃ after taken event, kernel.pullTunnel = (after, event) ∧ _
  simp only [pullTunnel, found]
  by_cases readable : device.descriptor.readable = true
  · rw [if_pos readable]
    obtain ⟨new, data, taken, step, _⟩ | ⟨new, taken, step, blocked, none, _⟩ :=
      Descriptor.take_advances calm readable unreported
    · have advances := (tunnel_advances steady found step fun _ _ => rfl).quiet
      rw [taken]
      refine ⟨_, [.data data], some (.ok (data.take bufferLength)), rfl, advances, others new, ?_, ?_, ?_⟩
      · rw [List.flatMap_singleton]
        exact loud_ofFrame setup _
      · intro _ empty
        cases empty
      · intro waiting
        cases waiting
    · have advances := (tunnel_advances steady found step fun _ _ => rfl).quiet
      rw [taken]
      refine ⟨_, [], Option.none, rfl, advances, others new, rfl, ?_, ?_⟩
      · intro ready
        cases ready
      · intro _ descriptor same
        cases same
        exact ⟨blocked, .inr none⟩
  · rw [if_neg readable]
    refine ⟨kernel, [], none, rfl, ?_, fun _ _ => rfl, rfl, ?_, ?_⟩
    · rw [only_nil]
      exact .refl steady
    · intro ready
      cases ready
    · intro _ descriptor same
      rw [known] at same
      cases same
      exact ⟨Bool.eq_false_iff.mpr readable, .inr unreported⟩

theorem pullSocket_takes (family : Family) (station : Station Kernel) (steady : station.host.Steady setup budget) :
    ∃ after taken event, Unbuffered.pullSocket setup family station = ({ station with host := after }, event) ∧
      Takes setup budget (.socket family) station.host after taken (Deed.ofSocket setup family event) event.isSome := by
  unfold Unbuffered.pullSocket
  by_cases configured : setup.hasSocket family = true
  · obtain ⟨socket, found⟩ := steady.socket configured
    have known : station.host.descriptor? (.socket family) = some socket.descriptor := congrArg (Option.map _) found
    obtain ⟨taken, delivered, draws⟩ := UdpSocket.receive_draws (List.replicate roomLength 0)
      (steady.each (.socket family) socket.descriptor known)
    rw [List.length_replicate] at draws
    rw [if_pos configured]
    change ∃ after taken event, ({ station with host := (station.host.pullSocket family).1 },
      (station.host.pullSocket family).2) = ({ station with host := after }, event) ∧ _
    simp only [pullSocket, receive, found]
    generalize UdpSocket.receive (List.replicate roomLength 0) socket.descriptor = receiving at draws
    have advances := (socket_advances steady found draws.advances fun _ _ => rfl).quiet
    have event : (receiving.outcome.map fun outcome => outcome.map (Received.delivery receiving.buffer)) =
        delivered.map .ok := by
      rw [draws.outcome]
      cases same : delivered with
      | none => rfl
      | some delivery =>
        have front := (draws.front delivery same).2
        cases delivery with
        | datagram data => exact congrArg (fun octets => some (Except.ok (Delivery.datagram octets))) front
        | report error fragment => exact congrArg (fun octets => some (Except.ok (Delivery.report error octets))) front
    refine ⟨_, taken, delivered.map .ok, Prod.ext rfl event,
      advances.still (say_advances receiving.notices (advances.steady steady)), ?_, loud_drawn draws.told, ?_, ?_⟩
    · intro other different
      rw [descriptor?_say, descriptor?_withOther _ _ different]
    · intro ready empty
      have told := draws.told
      rw [empty, List.filterMap_nil] at told
      cases delivered with
      | none => cases ready
      | some delivery => cases told
    · intro waiting descriptor same
      rw [descriptor?_say, descriptor?_withSocket] at same
      cases same
      have missing : delivered = none := by
        cases delivered with
        | none => rfl
        | some delivery => cases waiting
      have dry := draws.dry missing
      exact ⟨dry.readable, .inl dry.failing⟩
  · rw [if_neg configured]
    refine ⟨station.host, [], none, rfl, ?_, fun _ _ => rfl, rfl, ?_, ?_⟩
    · rw [only_nil]
      exact .refl steady
    · intro ready
      cases ready
    · intro _ descriptor same
      have present := steady.present (.socket family)
      rw [same] at present
      exact absurd present.symm configured

-- What a look leaves and shows: the events call for the deeds of the arrivals that were taken.
structure Surveys (setup : Setup) (budget : Device → Nat) (before after : Kernel) (intake : Intake)
    (taken : Device → List Arrival) : Prop where
  advances : before.Advances budget after taken nothing
  news : intake.news = none
  deeds : ∀ device, loud (intake.deedsFor setup device) = called setup taken device
  busy : intake.events.isReady = true → ∃ device, taken device ≠ []
  dry : intake.events.isReady = false → ∀ device, after.Dry device

theorem Dry.of_same {before after : Kernel} {device : Device} (dry : before.Dry device)
    (same : after.descriptor? device = before.descriptor? device) : after.Dry device := by
  unfold Dry
  rw [same]
  exact dry

theorem look_surveys {station : Station Kernel} (steady : station.host.Steady setup budget) :
    ∃ after intake taken, Unbuffered.look setup station = ({ station with host := after }, intake) ∧
      Surveys setup budget station.host after intake taken := by
  obtain ⟨first, frames, event, pulled, takes⟩ := pullTunnel_takes steady
  have steady1 := takes.advances.steady steady
  obtain ⟨second, entries4, event4, pulled4, takes4⟩ := pullSocket_takes .v4 { station with host := first } steady1
  have steady2 := takes4.advances.steady steady1
  obtain ⟨third, entries6, event6, pulled6, takes6⟩ := pullSocket_takes .v6 { station with host := second } steady2
  have tunnel : Unbuffered.pullTunnel station = ({ station with host := first }, event) := by
    rw [Unbuffered.pullTunnel, pulled]
  have all := (takes.advances.trans takes4.advances).trans takes6.advances
  refine ⟨third, ⟨none, event, event4, event6⟩, _, ?_, all, rfl, ?_, ?_, ?_⟩
  · simp only [Unbuffered.look, Unbuffered.pullAll, hear_unheard steady.signal, tunnel, pulled4, pulled6]
  · rintro (_ | _ | _)
    · simpa [Intake.deedsFor, Intake.socket, called, only] using takes.deeds
    · simpa [Intake.deedsFor, Intake.socket, called, only] using takes4.deeds
    · simpa [Intake.deedsFor, Intake.socket, called, only] using takes6.deeds
  · intro ready
    simp only [Events.isReady, Intake.events, Option.isSome_map, Option.isSome_none, Bool.false_or,
      Bool.or_eq_true] at ready
    rcases ready with (ready | ready) | ready
    · exact ⟨.tunnel, by simpa [only] using takes.busy ready⟩
    · exact ⟨.socket .v4, by simpa [only] using takes4.busy ready⟩
    · exact ⟨.socket .v6, by simpa [only] using takes6.busy ready⟩
  · intro waiting
    simp only [Events.isReady, Intake.events, Option.isSome_map, Option.isSome_none, Bool.false_or,
      Bool.or_eq_false_iff] at waiting
    obtain ⟨⟨none, none4⟩, none6⟩ := waiting
    rintro (_ | _ | _)
    · have dry := (takes.dry none).of_same (takes4.others .tunnel (by decide))
      exact dry.of_same (takes6.others .tunnel (by decide))
    · exact (takes4.dry none4).of_same (takes6.others (.socket .v4) (by decide))
    · exact takes6.dry none6

-- A device that has been read to its end has nothing left, unless an edge is still to come.
theorem arrivals_eq_nil (steady : kernel.Steady setup budget) (dry : ∀ device, kernel.Dry device)
    (unedged : ∀ descriptor ∈ kernel.descriptors, descriptor.edge = false) (device : Device) :
    kernel.arrivals device = [] := by
  unfold arrivals
  cases found : kernel.descriptor? device with
  | none => rfl
  | some descriptor =>
    have edge := unedged descriptor (mem_descriptors.mpr ⟨device, found⟩)
    obtain ⟨unread, settled⟩ := dry device descriptor found
    exact (steady.each device descriptor found).exhausted unread settled edge

-- How a wait with a deadline ends: with events that call for the deeds of what was taken, or with nothing left.
inductive Drains (setup : Setup) (budget : Device → Nat) (before : Station Kernel) :
    Unbuffered.Pause Kernel → Prop where
  | ready (advances : before.host.Advances budget after taken nothing) (busy : ∃ device, taken device ≠ [])
      (news : intake.news = none) (deeds : ∀ device, loud (intake.deedsFor setup device) = called setup taken device) :
      Drains setup budget before (.ready { before with host := after } intake)
  | idle (advances : before.host.Advances budget after taken nothing)
      (silent : ∀ device, called setup taken device = []) (empty : ∀ device, after.arrivals device = []) :
      Drains setup budget before (.idle { before with host := after })

-- What a first stretch of a wait took without an event does not change how the wait ends.
theorem Drains.after {before : Station Kernel} {middle : Kernel} {pause : Unbuffered.Pause Kernel}
    {dropped : Device → List Arrival} (first : before.host.Advances budget middle dropped nothing)
    (silent : ∀ device, called setup dropped device = [])
    (drains : Drains setup budget { before with host := middle } pause) : Drains setup budget before pause := by
  cases drains with
  | ready rest busy news deeds =>
    obtain ⟨device, something⟩ := busy
    refine .ready (first.trans rest) ⟨device, ?_⟩ news ?_
    · intro empty
      exact something (List.append_eq_nil_iff.mp empty).2
    · intro device
      rw [deeds device, called_append, silent device, List.nil_append]
  | idle rest others empty =>
    refine .idle (first.trans rest) ?_ empty
    intro device
    rw [called_append, silent device, others device, List.nil_append]

theorem waitUntil_drains {before : Station Kernel} (fuel : Nat) (limit : Nat)
    (steady : before.host.Steady setup budget) (enough : before.host.load < fuel) :
    Drains setup budget before (Unbuffered.waitUntil setup (some limit) fuel before) := by
  induction fuel generalizing before with
  | zero => exact absurd enough (Nat.not_lt_zero _)
  | succ fuel ih =>
    obtain ⟨after, intake, taken, looked, surveys⟩ := look_surveys steady
    have stands := surveys.advances.steady steady
    unfold Unbuffered.waitUntil
    rw [looked]
    cases ready : intake.events.isReady with
    | true =>
      simp only [ready, if_true]
      exact .ready surveys.advances (surveys.busy ready) surveys.news surveys.deeds
    | false =>
      have silent (device : Device) : called setup taken device = [] := by
        rw [← surveys.deeds device, eq_of_unready ready]
        rcases device with _ | _ | _ <;> rfl
      have lighter := surveys.advances.load
      simp only [ready]
      obtain ⟨awake, woken, wakes, less⟩ | ⟨unedged, expires⟩ := await_advances stands (some limit)
      · change Host.await (some limit) after = _ at woken
        rw [woken]
        have rest := @ih { before with host := awake } (wakes.steady stands) (by simp only; omega)
        exact rest.after (surveys.advances.still wakes) silent
      · obtain ⟨expired, timedOut, passes⟩ := expires limit rfl
        change Host.await (some limit) after = _ at timedOut
        rw [timedOut]
        refine .idle (surveys.advances.still passes) silent ?_
        intro device
        have left := passes.arrivals device
        rw [arrivals_eq_nil stands (surveys.dry ready) unedged device] at left
        exact left.symm

end Kernel
end IpTunnel
