import IpTunnel.Proofs.Arrivals
import IpTunnel.Proofs.Sockets
import IpTunnel.Proofs.Verdict
import Mathlib.Algebra.Ring.Nat

namespace IpTunnel.Kernel

-- Only the socket of this family has datagrams, and nothing fails anywhere.
structure Peaceful (family : Family) (kernel : Kernel) : Prop where
  tunnel : ∃ device, kernel.tunnel = some device
  device : ∀ device, kernel.tunnel = some device →
    device.descriptor.Peaceful ∧ device.descriptor.datagrams = []
  sockets : ∀ member socket, kernel.socket member = some socket → socket.descriptor.Peaceful
  silent : ∀ other socket, other ≠ family → kernel.socket other = some socket → socket.descriptor.datagrams = []
  signal : kernel.signal = .never

def left (family : Family) (kernel : Kernel) : List Bytes :=
  ((kernel.socket family).map (·.descriptor.datagrams)).getD []

def written (kernel : Kernel) : List Bytes := (kernel.tunnel.map (·.descriptor.written)).getD []

def load (kernel : Kernel) : Nat := (kernel.descriptors.map Descriptor.load).sum

theorem socket_withSocket (kernel : Kernel) (member : Family) (socket : UdpSocket) :
    (kernel.withSocket member socket).socket member = some socket := by
  cases member <;> rfl

theorem socket_withOther {member other : Family} (kernel : Kernel) (socket : UdpSocket) (different : other ≠ member) :
    (kernel.withSocket member socket).socket other = kernel.socket other := by
  cases member <;> cases other <;> first | rfl | exact absurd rfl different

theorem socket_say (notices : List Notice) (kernel : Kernel) (member : Family) :
    (kernel.say notices).socket member = kernel.socket member := by
  cases member <;> rfl

theorem tunnel_withSocket (kernel : Kernel) (member : Family) (socket : UdpSocket) :
    (kernel.withSocket member socket).tunnel = kernel.tunnel := by
  cases member <;> rfl

theorem signal_withSocket (kernel : Kernel) (member : Family) (socket : UdpSocket) :
    (kernel.withSocket member socket).signal = kernel.signal := by
  cases member <;> rfl

theorem load_withSocket {kernel : Kernel} {member : Family} {socket : UdpSocket}
    (found : kernel.socket member = some socket) (other : UdpSocket) :
    (kernel.withSocket member other).load + socket.descriptor.load = kernel.load + other.descriptor.load := by
  cases member with
  | v4 =>
    have found : kernel.socket4 = some socket := found
    simp only [load, descriptors, withSocket, found, Option.map_some, Option.toList_some, List.map_append,
      List.sum_append, List.map_cons, List.map_nil, List.sum_cons, List.sum_nil]
    omega
  | v6 =>
    have found : kernel.socket6 = some socket := found
    simp only [load, descriptors, withSocket, found, Option.map_some, Option.toList_some, List.map_append,
      List.sum_append, List.map_cons, List.map_nil, List.sum_cons, List.sum_nil]
    omega

structure Serves (family : Family) (before after : Kernel) (taken frames : List Bytes) : Prop where
  peaceful : after.Peaceful family
  load : after.load + taken.length ≤ before.load
  left : before.left family = taken ++ after.left family
  written : after.written = before.written ++ frames

namespace Serves

theorem trans (first : Serves family before middle taken frames) (second : Serves family middle after others more) :
    Serves family before after (taken ++ others) (frames ++ more) where
  peaceful := second.peaceful
  load := by
    have one := first.load
    have two := second.load
    rw [List.length_append]
    omega
  left := by rw [first.left, second.left, List.append_assoc]
  written := by rw [second.written, first.written, List.append_assoc]

theorem still (first : Serves family before middle taken frames) (second : Serves family middle after [] []) :
    Serves family before after taken frames := by
  have both := first.trans second
  rwa [List.append_nil, List.append_nil] at both

theorem aside {before after : Kernel} (peaceful : before.Peaceful family) (tunnel : after.tunnel = before.tunnel)
    (sockets : ∀ member, after.socket member = before.socket member) (signal : after.signal = before.signal) :
    Serves family before after [] [] where
  peaceful := {
    tunnel := tunnel ▸ peaceful.tunnel
    device := tunnel ▸ peaceful.device
    sockets := fun member => sockets member ▸ peaceful.sockets member
    silent := fun other => sockets other ▸ peaceful.silent other
    signal := signal.trans peaceful.signal }
  load := by
    have socket4 : after.socket4 = before.socket4 := sockets .v4
    have socket6 : after.socket6 = before.socket6 := sockets .v6
    rw [Kernel.load, Kernel.load, descriptors, descriptors, tunnel, socket4, socket6]
    exact Nat.le_refl _
  left := by rw [Kernel.left, Kernel.left, sockets family, List.nil_append]
  written := by rw [Kernel.written, Kernel.written, tunnel, List.append_nil]

theorem refl {kernel : Kernel} (peaceful : kernel.Peaceful family) : Serves family kernel kernel [] [] :=
  aside peaceful rfl (fun _ => rfl) rfl

-- The device has no packets, so a step of its descriptor takes none.
theorem onDevice {kernel : Kernel} {device : TunDevice} {after : Descriptor} (peaceful : kernel.Peaceful family)
    (found : kernel.tunnel = some device) (serves : device.descriptor.Serves after taken frames) :
    Serves family kernel { kernel with tunnel := some { device with descriptor := after } } [] frames := by
  obtain ⟨calm, silent⟩ := peaceful.device device found
  have nothing := serves.datagrams
  rw [silent] at nothing
  obtain ⟨_, still⟩ := List.append_eq_nil_iff.mp nothing.symm
  have load := serves.load
  refine ⟨⟨⟨_, rfl⟩, ?_, peaceful.sockets, peaceful.silent, peaceful.signal⟩, ?_, rfl, ?_⟩
  · intro other same
    cases same
    exact ⟨serves.peaceful, still⟩
  · simp only [Kernel.load, descriptors, found, Option.map_some, Option.toList_some, List.cons_append, List.map_cons,
      List.sum_cons, List.length_nil]
    omega
  · simp [Kernel.written, found, serves.written]

theorem onSocket {kernel : Kernel} {member : Family} {socket : UdpSocket} {after : Descriptor}
    (peaceful : kernel.Peaceful family) (found : kernel.socket member = some socket)
    (serves : socket.descriptor.Serves after taken []) :
    Serves family kernel (kernel.withSocket member { socket with descriptor := after }) taken [] := by
  have size := load_withSocket found { socket with descriptor := after }
  have load := serves.load
  have nothing (different : member ≠ family) : taken = [] ∧ after.datagrams = [] := by
    have none := serves.datagrams
    rw [peaceful.silent member socket different found] at none
    exact List.append_eq_nil_iff.mp none.symm
  refine ⟨⟨?_, ?_, ?_, ?_, ?_⟩, ?_, ?_, ?_⟩
  · rw [tunnel_withSocket]
    exact peaceful.tunnel
  · rw [tunnel_withSocket]
    exact peaceful.device
  · intro other present known
    by_cases same : other = member
    · rw [same, socket_withSocket] at known
      cases known
      exact serves.peaceful
    · rw [socket_withOther _ _ same] at known
      exact peaceful.sockets other present known
  · intro other present different known
    by_cases same : other = member
    · rw [same, socket_withSocket] at known
      cases known
      exact (nothing (same ▸ different)).2
    · rw [socket_withOther _ _ same] at known
      exact peaceful.silent other present different known
  · rw [signal_withSocket]
    exact peaceful.signal
  · simp only at size
    omega
  · by_cases same : family = member
    · rw [Kernel.left, Kernel.left, same, socket_withSocket, found]
      exact serves.datagrams
    · rw [Kernel.left, Kernel.left, socket_withOther _ _ same, (nothing fun equal => same equal.symm).1, List.nil_append]
  · rw [Kernel.written, Kernel.written, tunnel_withSocket, List.append_nil]

end Serves

theorem load_wake (descriptors : List Descriptor) :
    ((descriptors.map Descriptor.wake).map Descriptor.load).sum + (descriptors.any (·.edge)).toNat ≤
      (descriptors.map Descriptor.load).sum := by
  induction descriptors with
  | nil => exact Nat.le_refl _
  | cons descriptor rest ih =>
    have one := descriptor.load_wake
    simp only [List.map_cons, List.sum_cons, List.any_cons]
    cases edge : descriptor.edge with
    | false =>
      rw [edge, Bool.toNat_false] at one
      rw [Bool.false_or]
      omega
    | true =>
      rw [edge, Bool.toNat_true] at one
      rw [Bool.true_or, Bool.toNat_true]
      omega

theorem descriptors_wake (kernel : Kernel) : kernel.wake.descriptors = kernel.descriptors.map Descriptor.wake := by
  simp only [descriptors, wake, List.map_append]
  cases kernel.tunnel <;> cases kernel.socket4 <;> cases kernel.socket6 <;> rfl

theorem socket_wake (kernel : Kernel) (member : Family) : kernel.wake.socket member =
    (kernel.socket member).map fun socket => { socket with descriptor := socket.descriptor.wake } := by
  cases member <;> rfl

theorem datagrams_wake (descriptor : Descriptor) : descriptor.wake.datagrams = descriptor.datagrams := by
  unfold Descriptor.wake
  split <;> rfl

theorem written_wake (descriptor : Descriptor) : descriptor.wake.written = descriptor.written := by
  unfold Descriptor.wake
  split <;> rfl

theorem wake_serves {kernel : Kernel} (peaceful : kernel.Peaceful family) :
    Serves family kernel kernel.wake [] [] ∧
      kernel.wake.load + (kernel.descriptors.any (·.edge)).toNat ≤ kernel.load := by
  have load : kernel.wake.load + (kernel.descriptors.any (·.edge)).toNat ≤ kernel.load := by
    rw [Kernel.load, descriptors_wake]
    exact load_wake kernel.descriptors
  refine ⟨⟨⟨?_, ?_, ?_, ?_, peaceful.signal⟩, ?_, ?_, ?_⟩, load⟩
  · obtain ⟨device, found⟩ := peaceful.tunnel
    exact ⟨_, congrArg (Option.map _) found⟩
  · intro device known
    obtain ⟨device, found, rfl⟩ := Option.map_eq_some_iff.mp known
    obtain ⟨calm, silent⟩ := peaceful.device device found
    exact ⟨(Descriptor.wake_serves calm).peaceful, (datagrams_wake _).trans silent⟩
  · intro member socket known
    rw [socket_wake] at known
    obtain ⟨socket, found, rfl⟩ := Option.map_eq_some_iff.mp known
    exact (Descriptor.wake_serves (peaceful.sockets member socket found)).peaceful
  · intro other socket different known
    rw [socket_wake] at known
    obtain ⟨socket, found, rfl⟩ := Option.map_eq_some_iff.mp known
    exact (datagrams_wake _).trans (peaceful.silent other socket different found)
  · rw [List.length_nil]
    omega
  · rw [left, left, socket_wake, List.nil_append]
    cases kernel.socket family with
    | none => rfl
    | some socket => exact (datagrams_wake socket.descriptor).symm
  · rw [written, written, List.append_nil]
    simp only [wake]
    cases kernel.tunnel with
    | none => rfl
    | some device => exact written_wake device.descriptor

-- A wait ends with an edge, if there is one; otherwise nothing is left to be noticed.
theorem await_serves {kernel : Kernel} (peaceful : kernel.Peaceful family) (deadline : Option Nat) :
    (∃ after, kernel.await deadline = (.woken, after) ∧ Serves family kernel after [] [] ∧ after.load < kernel.load) ∨
      ∃ waking after, kernel.await deadline = (waking, after) ∧ waking ≠ .woken ∧ Serves family kernel after [] [] ∧
        ∀ descriptor ∈ kernel.descriptors, descriptor.edge = false := by
  have settled : Serves family kernel kernel.settle [] [] := .aside peaceful rfl (fun member => by cases member <;> rfl) rfl
  obtain ⟨woken, lighter⟩ := wake_serves settled.peaceful
  have same : kernel.settle.descriptors = kernel.descriptors := rfl
  unfold await
  by_cases edge : kernel.descriptors.any (·.edge) = true
  · refine .inl ⟨_, if_pos (same ▸ edge), settled.trans woken, ?_⟩
    rw [same, edge, Bool.toNat_true] at lighter
    exact lighter
  · have unsignalled : kernel.settle.isSignalled deadline.isSome = false := by
      have signal : kernel.settle.signal = .never := peaceful.signal
      rw [isSignalled, signal]
    have none : ∀ descriptor ∈ kernel.descriptors, descriptor.edge = false := by
      simpa using edge
    simp only [same, edge, unsignalled]
    cases deadline with
    | none => exact .inr ⟨_, _, rfl, by simp, settled, none⟩
    | some limit =>
      refine .inr ⟨_, _, rfl, by simp, ?_, none⟩
      exact .aside peaceful rfl (fun member => by cases member <;> rfl) rfl

theorem await_edge {kernel : Kernel} {device : TunDevice} (peaceful : kernel.Peaceful family)
    (found : kernel.tunnel = some device) (edge : device.descriptor.edge = true) (deadline : Option Nat) :
    ∃ after, kernel.await deadline = (.woken, after) ∧ Serves family kernel after [] [] ∧ after.load < kernel.load := by
  obtain woken | ⟨_, _, _, _, _, none⟩ := await_serves peaceful deadline
  · exact woken
  · have member : device.descriptor ∈ kernel.descriptors := by simp [descriptors, found]
    rw [none _ member] at edge
    cases edge

-- A write that has to wait waits for an edge that is sure to come, so that it gets through.
theorem writeWithin_serves {kernel : Kernel} (fuel : Nat) (frame : Bytes) (peaceful : kernel.Peaceful family)
    (enough : kernel.load < fuel) :
    ∃ after, kernel.writeWithin frame fuel = (some (.ok ()), after) ∧ Serves family kernel after [] [frame] := by
  induction fuel generalizing kernel with
  | zero => exact absurd enough (Nat.not_lt_zero _)
  | succ fuel ih =>
    obtain ⟨device, found⟩ := peaceful.tunnel
    have calm := (peaceful.device device found).1
    have retry {waiting : Kernel} {device : TunDevice} (serves : Serves family kernel waiting [] [])
        (known : waiting.tunnel = some device) (edge : device.descriptor.edge = true) :
        ∃ awake after, waiting.await none = (.woken, awake) ∧ writeWithin frame fuel awake = (some (.ok ()), after) ∧
          Serves family kernel after [] [frame] := by
      obtain ⟨awake, woken, wakes, lighter⟩ := await_edge serves.peaceful known edge none
      have before := serves.load
      rw [List.length_nil] at before
      obtain ⟨after, wrote, writes⟩ := ih wakes.peaceful (by omega)
      exact ⟨awake, after, woken, wrote, (serves.trans wakes).trans writes⟩
    unfold writeWithin
    simp only [found, TunDevice.write]
    by_cases writable : device.descriptor.writable = true
    · rw [if_pos writable]
      obtain ⟨after, given, serves⟩ | ⟨after, given, serves, edge⟩ := Descriptor.give_serves calm frame
      · rw [given]
        exact ⟨_, rfl, .onDevice peaceful found serves⟩
      · rw [given]
        obtain ⟨awake, done, woken, wrote, served⟩ := retry (.onDevice peaceful found serves) rfl edge
        simp only [woken]
        exact ⟨done, wrote, served⟩
    · rw [if_neg writable]
      have edge := calm.writes.resolve_left writable
      obtain ⟨awake, done, woken, wrote, served⟩ := retry (.onDevice peaceful found (.refl calm)) rfl edge
      simp only [woken]
      exact ⟨done, wrote, served⟩

theorem load_lt_pending (kernel : Kernel) : kernel.load < kernel.pending := by
  have each (descriptors : List Descriptor) : (descriptors.map Descriptor.load).sum ≤
      descriptors.foldr (·.work + ·) 0 + descriptors.length := by
    induction descriptors with
    | nil => exact Nat.le_refl _
    | cons descriptor rest ih =>
      have edge := Bool.toNat_le descriptor.edge
      simp only [List.map_cons, List.sum_cons, List.foldr_cons, List.length_cons, Descriptor.load]
      omega
  exact Nat.lt_succ_of_le (each kernel.descriptors)

theorem write_serves {kernel : Kernel} (frame : Bytes) (peaceful : kernel.Peaceful family) :
    ∃ after, Host.write frame kernel = (some (.ok ()), after) ∧ Serves family kernel after [] [frame] :=
  writeWithin_serves _ frame peaceful (Nat.lt_succ_of_lt (load_lt_pending kernel))

theorem say_serves {kernel : Kernel} (notices : List Notice) (peaceful : kernel.Peaceful family) :
    Serves family kernel (kernel.say notices) [] [] :=
  .aside peaceful rfl (socket_say notices kernel) rfl

theorem capture_serves {kernel : Kernel} (packet : Bytes) (peaceful : kernel.Peaceful family) :
    Serves family kernel (Host.capture packet kernel) [] [] := by
  change Serves family kernel (kernel.capture packet) [] []
  unfold capture
  split
  · exact .refl peaceful
  · exact .aside peaceful rfl (fun member => by cases member <;> rfl) rfl

theorem act_serves {kernel : Kernel} {deeds : List Deed} {frames : List Bytes} (peaceful : kernel.Peaceful family)
    (writes : loud deeds = frames.map Deed.write) :
    ∃ after, Unbuffered.act deeds kernel = (after, none) ∧ Serves family kernel after [] frames := by
  induction deeds generalizing kernel frames with
  | nil =>
    obtain rfl := List.map_eq_nil_iff.mp writes.symm
    exact ⟨kernel, rfl, .refl peaceful⟩
  | cons deed rest ih =>
    cases deed with
    | say notice =>
      have aside := say_serves [notice] peaceful
      obtain ⟨after, acted, serves⟩ := ih aside.peaceful writes
      exact ⟨after, acted, aside.trans serves⟩
    | capture packet =>
      have aside := capture_serves packet peaceful
      obtain ⟨after, acted, serves⟩ := ih aside.peaceful writes
      exact ⟨after, acted, aside.trans serves⟩
    | write frame =>
      obtain ⟨first, others, rfl, same, remaining⟩ := List.map_eq_cons_iff.mp writes.symm
      cases same
      obtain ⟨middle, wrote, serves⟩ := write_serves frame peaceful
      obtain ⟨after, acted, more⟩ := ih serves.peaceful remaining.symm
      rw [Unbuffered.act_write, wrote]
      exact ⟨after, acted, serves.trans more⟩
    | send family packet peer => cases frames <;> simp at writes
    | fail cause => cases frames <;> simp at writes
    | overrun => cases frames <;> simp at writes

end IpTunnel.Kernel
