import IpTunnel.Proofs.Endpoint
import IpTunnel.Proofs.Steady

namespace IpTunnel

-- The tunnel device is always there, and a socket for each listen address.
def Setup.has (setup : Setup) : Device → Bool
  | .tunnel => true
  | .socket family => setup.hasSocket family

def only (device : Device) (items : List α) : Device → List α :=
  fun other => if other = device then items else []

def nothing : Device → List α := fun _ => []

theorem only_self (device : Device) (items : List α) : only device items device = items := if_pos rfl

theorem only_other {device other : Device} (items : List α) (different : other ≠ device) :
    only device items other = [] := if_neg different

def charge (device : Device) (budget : Device → Nat) : Device → Nat :=
  fun other => if other = device then budget other + 1 else budget other

theorem charge_self (device : Device) (budget : Device → Nat) : charge device budget device = budget device + 1 :=
  if_pos rfl

theorem charge_other {device other : Device} (budget : Device → Nat) (different : other ≠ device) :
    charge device budget other = budget other := if_neg different

namespace Kernel

def descriptor? (kernel : Kernel) : Device → Option Descriptor
  | .tunnel => kernel.tunnel.map (·.descriptor)
  | .socket family => (kernel.socket family).map (·.descriptor)

def arrivals (kernel : Kernel) (device : Device) : List Arrival :=
  ((kernel.descriptor? device).map Descriptor.arrivals).getD []

def done (kernel : Kernel) (device : Device) : List Call := ((kernel.descriptor? device).map Descriptor.done).getD []

def loadAt (kernel : Kernel) (device : Device) : Nat := ((kernel.descriptor? device).map Descriptor.load).getD 0

theorem load_eq (kernel : Kernel) :
    kernel.load = kernel.loadAt .tunnel + kernel.loadAt (.socket .v4) + kernel.loadAt (.socket .v6) := by
  unfold load descriptors loadAt descriptor? socket
  rw [List.map_append, List.map_append, List.sum_append, List.sum_append]
  cases kernel.tunnel <;> cases kernel.socket4 <;> cases kernel.socket6 <;> rfl

theorem mem_descriptors {kernel : Kernel} {descriptor : Descriptor} :
    descriptor ∈ kernel.descriptors ↔ ∃ device, kernel.descriptor? device = some descriptor := by
  simp only [descriptors, List.mem_append, Option.mem_toList]
  constructor
  · rintro ((found | found) | found)
    · exact ⟨.tunnel, found⟩
    · exact ⟨.socket .v4, found⟩
    · exact ⟨.socket .v6, found⟩
  · rintro ⟨_ | _ | _, found⟩
    · exact .inl (.inl found)
    · exact .inl (.inr found)
    · exact .inr found

theorem descriptor?_say (notices : List Notice) (kernel : Kernel) (device : Device) :
    (kernel.say notices).descriptor? device = kernel.descriptor? device := by
  cases device with
  | tunnel => rfl
  | socket family => rw [descriptor?, socket_say, descriptor?]

theorem descriptor?_withSocket (kernel : Kernel) (family : Family) (socket : UdpSocket) :
    (kernel.withSocket family socket).descriptor? (.socket family) = some socket.descriptor := by
  rw [descriptor?, socket_withSocket, Option.map_some]

theorem descriptor?_withOther {family : Family} {other : Device} (kernel : Kernel) (socket : UdpSocket)
    (different : other ≠ .socket family) :
    (kernel.withSocket family socket).descriptor? other = kernel.descriptor? other := by
  cases other with
  | tunnel => rw [descriptor?, tunnel_withSocket, descriptor?]
  | socket member =>
    have apart : member ≠ family := by
      intro same
      exact different (congrArg Device.socket same)
    rw [descriptor?, socket_withOther _ _ apart, descriptor?]

theorem descriptor?_wake (kernel : Kernel) (device : Device) :
    kernel.wake.descriptor? device = (kernel.descriptor? device).map Descriptor.wake := by
  cases device with
  | tunnel =>
    simp only [descriptor?, wake]
    cases kernel.tunnel <;> rfl
  | socket family =>
    simp only [descriptor?, socket_wake]
    cases kernel.socket family <;> rfl

-- A kernel with the devices of the setup, each of which lets as many calls through as its budget says.
structure Steady (setup : Setup) (budget : Device → Nat) (kernel : Kernel) : Prop where
  signal : kernel.signal = .never
  present : ∀ device, (kernel.descriptor? device).isSome = setup.has device
  each : ∀ device descriptor, kernel.descriptor? device = some descriptor → descriptor.Steady (budget device)
  unreported : ∀ descriptor, kernel.descriptor? .tunnel = some descriptor → descriptor.reports = []

-- A step of a device that may be missing.
inductive Moves : Option Descriptor → Nat → Option Descriptor → List Arrival → List Call → Prop where
  | present (advances : Descriptor.Advances before budget after taken made) :
      Moves (some before) budget (some after) taken made
  | absent : Moves none budget none [] []

namespace Moves

theorem trans (first : Moves before budget middle taken made) (second : Moves middle budget' after others later) :
    Moves before budget' after (taken ++ others) (made ++ later) := by
  cases first with
  | absent =>
    cases second
    exact .absent
  | present one =>
    cases second with
    | present two => exact .present (one.trans two)

theorem isSome (moves : Moves before budget after taken made) : after.isSome = before.isSome := by
  cases moves <;> rfl

theorem arrivals (moves : Moves before budget after taken made) :
    (before.map Descriptor.arrivals).getD [] = taken ++ (after.map Descriptor.arrivals).getD [] := by
  cases moves with
  | present advances => exact advances.arrivals
  | absent => rfl

theorem done (moves : Moves before budget after taken made) :
    (after.map Descriptor.done).getD [] = (before.map Descriptor.done).getD [] ++ made := by
  cases moves with
  | present advances => exact advances.done
  | absent => rfl

theorem load (moves : Moves before budget after taken made) :
    (after.map Descriptor.load).getD 0 + taken.length ≤ (before.map Descriptor.load).getD 0 := by
  cases moves with
  | present advances => exact advances.load
  | absent => exact Nat.le_refl _

theorem steady {after : Descriptor} (moves : Moves before budget (some after) taken made) : after.Steady budget := by
  cases moves with
  | present advances => exact advances.steady

-- A report that is left would have been among the arrivals before.
theorem unreported {after : Descriptor} (moves : Moves before budget (some after) taken made)
    (silent : ∀ old, before = some old → old.reports = []) : after.reports = [] := by
  cases moves with
  | @present old _ _ _ _ advances =>
    have empty := silent old rfl
    apply List.eq_nil_iff_forall_not_mem.mpr
    intro entry member
    have among : Arrival.report entry ∈ old.arrivals := by
      rw [advances.arrivals, Descriptor.arrivals]
      exact List.mem_append_right _ (List.mem_append_left _ (List.mem_map_of_mem member))
    simp [Descriptor.arrivals, empty] at among

end Moves

structure Advances (before : Kernel) (budget : Device → Nat) (after : Kernel) (taken : Device → List Arrival)
    (made : Device → List Call) : Prop where
  signal : after.signal = before.signal
  moves : ∀ device, Moves (before.descriptor? device) (budget device) (after.descriptor? device) (taken device)
    (made device)

namespace Advances

variable {setup : Setup} {budget more rest : Device → Nat} {before middle after : Kernel}
  {taken others : Device → List Arrival} {made later : Device → List Call}

theorem aside (steady : before.Steady setup budget)
    (same : ∀ device, after.descriptor? device = before.descriptor? device) (signal : after.signal = before.signal) :
    before.Advances budget after nothing nothing where
  signal := signal
  moves device := by
    rw [same device]
    cases found : before.descriptor? device with
    | none => exact .absent
    | some descriptor => exact .present (.refl (steady.each device descriptor found))

theorem refl (steady : before.Steady setup budget) : before.Advances budget before nothing nothing :=
  aside steady (fun _ => rfl) rfl

theorem trans (first : before.Advances budget middle taken made) (second : middle.Advances rest after others later) :
    before.Advances rest after (fun device => taken device ++ others device)
      (fun device => made device ++ later device) where
  signal := second.signal.trans first.signal
  moves device := (first.moves device).trans (second.moves device)

theorem onward (first : before.Advances budget middle nothing nothing)
    (second : middle.Advances rest after taken made) : before.Advances rest after taken made :=
  first.trans second

theorem still (first : before.Advances budget middle taken made) (second : middle.Advances rest after nothing nothing) :
    before.Advances rest after taken made := by
  have both := first.trans second
  simpa only [nothing, List.append_nil] using both

theorem one {device : Device} {old new : Descriptor} {arrived : List Arrival} {calls : List Call}
    (steady : before.Steady setup more) (found : before.descriptor? device = some old)
    (step : old.Advances (budget device) new arrived calls) (changed : after.descriptor? device = some new)
    (same : ∀ other, other ≠ device → after.descriptor? other = before.descriptor? other)
    (spared : ∀ other, other ≠ device → more other = budget other) (signal : after.signal = before.signal) :
    before.Advances budget after (only device arrived) (only device calls) where
  signal := signal
  moves other := by
    by_cases equal : other = device
    · rw [equal, found, changed, only_self, only_self]
      exact .present step
    · rw [same other equal, only_other _ equal, only_other _ equal]
      cases known : before.descriptor? other with
      | none => exact .absent
      | some descriptor =>
        have kept := steady.each other descriptor known
        rw [spared other equal] at kept
        exact .present (.refl kept)

theorem arrivals (advances : before.Advances budget after taken made) (device : Device) :
    before.arrivals device = taken device ++ after.arrivals device := (advances.moves device).arrivals

theorem done (advances : before.Advances budget after taken made) (device : Device) :
    after.done device = before.done device ++ made device := (advances.moves device).done

theorem loadAt (advances : before.Advances budget after taken made) (device : Device) :
    after.loadAt device + (taken device).length ≤ before.loadAt device := (advances.moves device).load

theorem load (advances : before.Advances budget after taken made) : after.load ≤ before.load := by
  have tunnel := advances.loadAt .tunnel
  have socket4 := advances.loadAt (.socket .v4)
  have socket6 := advances.loadAt (.socket .v6)
  rw [load_eq, load_eq]
  omega

theorem load_lt (advances : before.Advances budget after taken made) (busy : taken device ≠ []) :
    after.load < before.load := by
  have tunnel := advances.loadAt .tunnel
  have socket4 := advances.loadAt (.socket .v4)
  have socket6 := advances.loadAt (.socket .v6)
  have some_ : 0 < (taken device).length := List.length_pos_iff.mpr busy
  rw [load_eq, load_eq]
  cases device with
  | tunnel => omega
  | socket family => cases family <;> omega

theorem steady (advances : before.Advances budget after taken made) (start : before.Steady setup more) :
    after.Steady setup budget where
  signal := advances.signal.trans start.signal
  present device := (advances.moves device).isSome.trans (start.present device)
  each device descriptor found := by
    have moves := advances.moves device
    rw [found] at moves
    exact moves.steady
  unreported descriptor found := by
    have moves := advances.moves .tunnel
    rw [found] at moves
    exact moves.unreported start.unreported

end Advances

variable {setup : Setup} {budget : Device → Nat} {kernel : Kernel}

theorem wake_advances (steady : kernel.Steady setup budget) : kernel.Advances budget kernel.wake nothing nothing where
  signal := rfl
  moves device := by
    rw [descriptor?_wake]
    cases found : kernel.descriptor? device with
    | none => exact .absent
    | some descriptor => exact .present (Descriptor.wake_advances (steady.each device descriptor found))

theorem settle_advances (steady : kernel.Steady setup budget) :
    kernel.Advances budget kernel.settle nothing nothing :=
  .aside steady (fun device => by rcases device with _ | _ | _ <;> rfl) rfl

theorem late_advances (steady : kernel.Steady setup budget) (moment : Nat) :
    kernel.Advances budget { kernel with now := moment } nothing nothing :=
  .aside steady (fun device => by rcases device with _ | _ | _ <;> rfl) rfl

-- A wait ends with an edge, if there is one; otherwise with its deadline.
theorem await_advances (steady : kernel.Steady setup budget) (deadline : Option Nat) :
    (∃ after, kernel.await deadline = (.woken, after) ∧ kernel.Advances budget after nothing nothing ∧
      after.load < kernel.load) ∨
    ((∀ descriptor ∈ kernel.descriptors, descriptor.edge = false) ∧
      ∀ limit, deadline = some limit → ∃ after, kernel.await deadline = (.timedOut, after) ∧
        kernel.Advances budget after nothing nothing) := by
  have settled := settle_advances steady
  have same : kernel.settle.descriptors = kernel.descriptors := rfl
  unfold await
  by_cases edge : kernel.descriptors.any (·.edge) = true
  · have woken := wake_advances (settled.steady steady)
    have lighter := load_wake kernel.descriptors
    rw [edge, Bool.toNat_true] at lighter
    refine .inl ⟨_, if_pos (same ▸ edge), settled.onward woken, ?_⟩
    rw [load, descriptors_wake, same]
    exact lighter
  · have unsignalled : kernel.settle.isSignalled deadline.isSome = false := by
      have signal : kernel.settle.signal = .never := steady.signal
      rw [isSignalled, signal]
    refine .inr ⟨by simpa using edge, ?_⟩
    intro limit given
    subst given
    refine ⟨_, ?_, settled.onward (late_advances (settled.steady steady) limit)⟩
    simp only [same, edge, unsignalled]
    rfl

theorem await_edge_advances {device : Device} {descriptor : Descriptor} (steady : kernel.Steady setup budget)
    (found : kernel.descriptor? device = some descriptor) (edge : descriptor.edge = true) (deadline : Option Nat) :
    ∃ after, kernel.await deadline = (.woken, after) ∧ kernel.Advances budget after nothing nothing ∧
      after.load < kernel.load := by
  rcases await_advances steady deadline with woken | ⟨unedged, _⟩
  · exact woken
  · rw [unedged descriptor (mem_descriptors.mpr ⟨device, found⟩)] at edge
    cases edge

theorem Steady.tunnel (steady : kernel.Steady setup budget) : ∃ device, kernel.tunnel = some device := by
  have present := steady.present .tunnel
  cases found : kernel.tunnel with
  | none => simp [descriptor?, found, Setup.has] at present
  | some device => exact ⟨device, rfl⟩

theorem Steady.socket {family : Family} (steady : kernel.Steady setup budget)
    (configured : setup.hasSocket family = true) : ∃ socket, kernel.socket family = some socket := by
  have present := steady.present (.socket family)
  cases found : kernel.socket family with
  | none => simp [descriptor?, found, Setup.has, configured] at present
  | some socket => exact ⟨socket, rfl⟩

theorem tunnel_advances {device : TunDevice} {new : Descriptor} {more : Device → Nat} {taken : List Arrival}
    {calls : List Call} (steady : kernel.Steady setup more) (found : kernel.tunnel = some device)
    (step : device.descriptor.Advances (budget .tunnel) new taken calls)
    (spared : ∀ other, other ≠ .tunnel → more other = budget other) :
    kernel.Advances budget { kernel with tunnel := some { device with descriptor := new } } (only .tunnel taken)
      (only .tunnel calls) := by
  have known : kernel.descriptor? .tunnel = some device.descriptor := congrArg (Option.map _) found
  refine .one steady known step rfl ?_ spared rfl
  intro other different
  rcases other with _ | _ | _
  · exact absurd rfl different
  · rfl
  · rfl

theorem socket_advances {family : Family} {socket : UdpSocket} {new : Descriptor} {more : Device → Nat}
    {taken : List Arrival} {calls : List Call} (steady : kernel.Steady setup more)
    (found : kernel.socket family = some socket)
    (step : socket.descriptor.Advances (budget (.socket family)) new taken calls)
    (spared : ∀ other, other ≠ .socket family → more other = budget other) :
    kernel.Advances budget (kernel.withSocket family { socket with descriptor := new }) (only (.socket family) taken)
      (only (.socket family) calls) := by
  have known : kernel.descriptor? (.socket family) = some socket.descriptor := congrArg (Option.map _) found
  refine .one steady known step ?_ ?_ spared ?_
  · exact descriptor?_withSocket kernel family _
  · intro other different
    exact descriptor?_withOther kernel _ different
  · exact signal_withSocket kernel family _

theorem say_advances (notices : List Notice) (steady : kernel.Steady setup budget) :
    kernel.Advances budget (kernel.say notices) nothing nothing :=
  .aside steady (descriptor?_say notices kernel) rfl

theorem capture_advances (packet : Bytes) (steady : kernel.Steady setup budget) :
    kernel.Advances budget (kernel.capture packet) nothing nothing := by
  unfold capture
  split
  · exact .refl steady
  · exact .aside steady (fun device => by rcases device with _ | _ | _ <;> rfl) rfl

theorem only_nil (device : Device) : only device ([] : List α) = nothing := by
  funext other
  exact ite_self []

-- A write that is paid for gets through once, after as many waits as it takes.
theorem writeWithin_advances (fuel : Nat) (frame : Bytes) (steady : kernel.Steady setup (charge .tunnel budget))
    (enough : kernel.load < fuel) :
    ∃ after, kernel.writeWithin frame fuel = (some (.ok ()), after) ∧
      kernel.Advances budget after nothing (only .tunnel [.write frame none]) := by
  induction fuel generalizing kernel with
  | zero => exact absurd enough (Nat.not_lt_zero _)
  | succ fuel ih =>
    have retry {waiting : Kernel} {device : TunDevice}
        (advances : kernel.Advances (charge .tunnel budget) waiting nothing nothing)
        (known : waiting.tunnel = some device) (edge : device.descriptor.edge = true) :
        ∃ awake after, waiting.await none = (.woken, awake) ∧ writeWithin frame fuel awake = (some (.ok ()), after) ∧
          kernel.Advances budget after nothing (only .tunnel [.write frame none]) := by
      have found : waiting.descriptor? .tunnel = some device.descriptor := congrArg (Option.map _) known
      have lighter := advances.load
      have stands := advances.steady steady
      obtain ⟨awake, woken, wakes, less⟩ := await_edge_advances stands found edge none
      obtain ⟨after, wrote, writes⟩ := ih (wakes.steady stands) (by omega)
      exact ⟨awake, after, woken, wrote, (advances.onward wakes).onward writes⟩
    obtain ⟨device, found⟩ := steady.tunnel
    have calm : device.descriptor.Steady (budget .tunnel + 1) := by
      have each := steady.each .tunnel device.descriptor (congrArg (Option.map _) found)
      rwa [charge_self] at each
    have spared (other : Device) (different : other ≠ .tunnel) : charge .tunnel budget other = budget other :=
      charge_other budget different
    unfold writeWithin
    simp only [found, TunDevice.write]
    by_cases writable : device.descriptor.writable = true
    · rw [if_pos writable]
      obtain ⟨after, given, step⟩ | ⟨after, given, step, edge, _⟩ :=
        Descriptor.give_advances (.write frame) rfl (fun _ => rfl) calm
      · rw [given]
        have advances := tunnel_advances steady found step spared
        rw [only_nil] at advances
        exact ⟨_, rfl, advances⟩
      · rw [given]
        rw [← charge_self .tunnel budget] at step
        have advances := tunnel_advances steady found step fun _ _ => rfl
        rw [only_nil, only_nil] at advances
        obtain ⟨awake, done, woken, wrote, writes⟩ := retry advances rfl edge
        simp only [woken]
        exact ⟨done, wrote, writes⟩
    · rw [if_neg writable]
      have edge := calm.writes.resolve_left writable
      have advances := tunnel_advances steady found (.refl (steady.each .tunnel _ (congrArg (Option.map _) found)))
        fun _ _ => rfl
      rw [only_nil, only_nil] at advances
      obtain ⟨awake, done, woken, wrote, writes⟩ := retry advances rfl edge
      simp only [woken]
      exact ⟨done, wrote, writes⟩

theorem sendWithin_advances {family : Family} (fuel : Nat) (packet : Bytes) (peer : Endpoint) (retries : Nat)
    (configured : setup.hasSocket family = true) (steady : kernel.Steady setup (charge (.socket family) budget))
    (enough : kernel.load < fuel) :
    ∃ after, kernel.sendWithin family packet peer fuel retries = (some (.ok ()), after) ∧
      kernel.Advances budget after nothing (only (.socket family) [.sendTo packet peer none]) := by
  induction fuel generalizing kernel retries with
  | zero => exact absurd enough (Nat.not_lt_zero _)
  | succ fuel ih =>
    obtain ⟨socket, found⟩ := steady.socket configured
    have calm : socket.descriptor.Steady (budget (.socket family) + 1) := by
      have each := steady.each (.socket family) socket.descriptor (congrArg (Option.map _) found)
      rwa [charge_self] at each
    have posts := UdpSocket.send_posts socket.endpoint packet peer retries calm
    unfold sendWithin
    simp only [found]
    generalize UdpSocket.send socket.endpoint packet peer retries socket.descriptor = sending at posts
    cases posts with
    | @out new left step =>
      have advances := socket_advances steady found step fun other different => charge_other budget different
      rw [only_nil] at advances
      exact ⟨_, rfl, advances.still (say_advances [] (advances.steady steady))⟩
    | @waiting new left step edge =>
      rw [← charge_self (.socket family) budget] at step
      have advances := socket_advances steady found step fun _ _ => rfl
      rw [only_nil, only_nil] at advances
      have waits := advances.onward (say_advances [] (advances.steady steady))
      have stands := waits.steady steady
      have known := descriptor?_withSocket kernel family { socket with descriptor := new }
      rw [← descriptor?_say []] at known
      have lighter := waits.load
      obtain ⟨awake, woken, wakes, less⟩ := await_edge_advances stands known edge none
      obtain ⟨after, sent, sends⟩ := ih left (wakes.steady stands) (by omega)
      simp only [woken]
      exact ⟨after, sent, (waits.onward wakes).onward sends⟩

theorem write_advances (frame : Bytes) (steady : kernel.Steady setup (charge .tunnel budget)) :
    ∃ after, Host.write frame kernel = (some (.ok ()), after) ∧
      kernel.Advances budget after nothing (only .tunnel [.write frame none]) :=
  writeWithin_advances _ frame steady (Nat.lt_succ_of_lt (load_lt_pending kernel))

theorem send_advances {family : Family} (packet : Bytes) (peer : Endpoint) (configured : setup.hasSocket family = true)
    (steady : kernel.Steady setup (charge (.socket family) budget)) :
    ∃ after, Host.send family packet peer kernel = (some (.ok ()), after) ∧
      kernel.Advances budget after nothing (only (.socket family) [.sendTo packet peer none]) :=
  sendWithin_advances _ packet peer 1 configured steady (Nat.lt_succ_of_lt (load_lt_pending kernel))

end Kernel

def Deed.Doable (setup : Setup) : Deed → Prop
  | .send family _ _ => setup.hasSocket family = true
  | .fail _ => False
  | .overrun => False
  | _ => True

def Deed.call? : Deed → Option (Device × Call)
  | .send family packet peer => some (.socket family, .sendTo packet peer none)
  | .write frame => some (.tunnel, .write frame none)
  | _ => none

def callsOn (deeds : List Deed) (device : Device) : List Call :=
  deeds.filterMap fun deed => deed.call?.bind fun (target, call) => if target = device then some call else none

theorem callsOn_append (first second : List Deed) (device : Device) :
    callsOn (first ++ second) device = callsOn first device ++ callsOn second device := List.filterMap_append

theorem callsOn_quiet {deed : Deed} (rest : List Deed) (quiet : deed.call? = none) :
    callsOn (deed :: rest) = callsOn rest := by
  funext device
  exact List.filterMap_cons_none (by rw [quiet]; rfl)

theorem callsOn_cons {deed : Deed} {target : Device} {call : Call} (rest : List Deed) (device : Device)
    (made : deed.call? = some (target, call)) :
    callsOn (deed :: rest) device = only target [call] device ++ callsOn rest device := by
  unfold callsOn
  rw [List.filterMap_cons, made, Option.bind_some]
  by_cases same : target = device
  · subst same
    rw [only_self]
    simp
  · rw [only_other _ fun equal => same equal.symm]
    simp [same]

theorem callsOn_loud (deeds : List Deed) (device : Device) : callsOn (loud deeds) device = callsOn deeds device := by
  induction deeds with
  | nil => rfl
  | cons deed rest ih =>
    cases deed with
    | say notice => exact ih
    | capture packet => exact ih
    | send family packet peer =>
      rw [loud_send, callsOn_cons _ _ rfl, callsOn_cons _ _ rfl, ih]
    | write frame => rw [loud_write, callsOn_cons _ _ rfl, callsOn_cons _ _ rfl, ih]
    | fail cause => exact ih
    | overrun => exact ih

-- What deeds leave of a budget, and need of it.
def spend (deeds : List Deed) (budget : Device → Nat) : Device → Nat :=
  fun device => (callsOn deeds device).length + budget device

theorem spend_cons {deed : Deed} {target : Device} {call : Call} (rest : List Deed) (budget : Device → Nat)
    (made : deed.call? = some (target, call)) :
    spend (deed :: rest) budget = charge target (spend rest budget) := by
  funext device
  rw [spend, callsOn_cons rest device made, List.length_append]
  by_cases same : device = target
  · rw [same, only_self, charge_self, spend, List.length_singleton]
    omega
  · rw [only_other _ same, charge_other _ same, spend, List.length_nil, Nat.zero_add]

namespace Kernel

-- Deeds that are paid for are all done, each once and in order.
theorem act_advances {setup : Setup} {budget : Device → Nat} {kernel : Kernel} {deeds : List Deed}
    (doable : ∀ deed ∈ deeds, deed.Doable setup) (steady : kernel.Steady setup (spend deeds budget)) :
    ∃ after, Unbuffered.act deeds kernel = (after, none) ∧ kernel.Advances budget after nothing (callsOn deeds) := by
  induction deeds generalizing kernel with
  | nil =>
    have same : spend [] budget = budget := by
      funext device
      exact Nat.zero_add _
    rw [same] at steady
    exact ⟨kernel, rfl, .refl steady⟩
  | cons deed rest ih =>
    have others : ∀ other ∈ rest, other.Doable setup := by
      intro other member
      exact doable other (List.mem_cons_of_mem _ member)
    have first := doable deed (List.mem_cons_self ..)
    -- A notice and a capture cost nothing.
    have aside {middle : Kernel} (quiet : deed.call? = none)
        (unchanged : kernel.Advances (spend (deed :: rest) budget) middle nothing nothing) :
        ∃ after, Unbuffered.act rest middle = (after, none) ∧
          kernel.Advances budget after nothing (callsOn (deed :: rest)) := by
      have stands := unchanged.steady steady
      have same : spend (deed :: rest) budget = spend rest budget := by
        unfold spend
        rw [callsOn_quiet rest quiet]
      rw [same] at stands
      obtain ⟨after, acted, advances⟩ := ih others stands
      rw [callsOn_quiet rest quiet]
      exact ⟨after, acted, unchanged.onward advances⟩
    have onward {middle : Kernel} {target : Device} {call : Call} (made : deed.call? = some (target, call))
        (advances : kernel.Advances (spend rest budget) middle nothing (only target [call])) :
        ∃ after, Unbuffered.act rest middle = (after, none) ∧
          kernel.Advances budget after nothing (callsOn (deed :: rest)) := by
      obtain ⟨after, acted, more⟩ := ih others (advances.steady steady)
      refine ⟨after, acted, ?_⟩
      have both := advances.trans more
      have same : (fun device => only target [call] device ++ callsOn rest device) = callsOn (deed :: rest) := by
        funext device
        exact (callsOn_cons rest device made).symm
      rw [same] at both
      exact both
    cases deed with
    | say notice => exact aside rfl (say_advances [notice] steady)
    | capture packet => exact aside rfl (capture_advances packet steady)
    | send family packet peer =>
      rw [spend_cons rest budget rfl] at steady
      obtain ⟨middle, sent, advances⟩ := send_advances packet peer first steady
      rw [Unbuffered.act_send, sent]
      exact onward rfl advances
    | write frame =>
      rw [spend_cons rest budget rfl] at steady
      obtain ⟨middle, wrote, advances⟩ := write_advances frame steady
      rw [Unbuffered.act_write, wrote]
      exact onward rfl advances
    | fail cause => exact first.elim
    | overrun => exact first.elim

end Kernel
end IpTunnel
