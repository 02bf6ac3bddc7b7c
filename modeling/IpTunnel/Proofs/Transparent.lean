import IpTunnel.Proofs.Endpoint
import IpTunnel.Proofs.Outbound

namespace IpTunnel

-- The frame that a datagram becomes, if it is neither a probe nor longer than a socket's buffer.
def accepted? (setup : Setup) (data : Bytes) : Option Bytes :=
  if 33 ≤ data.length ∧ data.length ≤ 2044 then (familyOf? data).map fun inner => setup.enframe inner data
  else none

theorem inbound_datagram (setup : Setup) (family : Family) {data : Bytes} (fits : data.length ≤ 2044) :
    inbound setup family (.datagram data) = accepted? setup data := by
  simp only [inbound, accepted?]
  by_cases long : 32 < data.length
  · rw [if_pos long, if_pos ⟨long, fits⟩]
  · rw [if_neg long, if_neg fun both => long both.1]

theorem accepted?_oversized {setup : Setup} {dropped : List Bytes}
    (oversized : ∀ data ∈ dropped, roomLength < data.length) : dropped.filterMap (accepted? setup) = [] := by
  refine List.filterMap_eq_nil_iff.mpr fun data member => ?_
  have long := oversized data member
  exact if_neg fun both => Nat.not_lt.mpr both.2 long

namespace Kernel

variable {family : Family} {kernel : Kernel}

theorem pullTunnel_serves (peaceful : kernel.Peaceful family) :
    ∃ after, Pulls.pullTunnel kernel = (after, none) ∧ Serves family kernel after [] [] := by
  obtain ⟨device, found⟩ := peaceful.tunnel
  obtain ⟨calm, silent⟩ := peaceful.device device found
  change ∃ after, kernel.pullTunnel = (after, none) ∧ _
  simp only [pullTunnel, found]
  by_cases readable : device.descriptor.readable = true
  · rw [if_pos readable]
    obtain ⟨after, data, taken, serves, _⟩ | ⟨after, taken, serves, _, _⟩ := Descriptor.take_serves calm readable
    · have nothing := serves.datagrams
      rw [silent] at nothing
      cases nothing
    · rw [taken]
      exact ⟨_, rfl, .onDevice peaceful found serves⟩
  · rw [if_neg readable]
    exact ⟨_, rfl, .refl peaceful⟩

def arrived (found : Option Bytes) : Option (Except IoError Delivery) := found.map fun data => .ok (.datagram data)

-- What a poll of a socket leaves: datagrams that did not fit are gone, and with them the one found.
structure Polls (family member : Family) (before after : Kernel) (dropped : List Bytes) (found : Option Bytes) :
    Prop where
  serves : Serves family before after (dropped ++ found.toList) []
  oversized : ∀ data ∈ dropped, roomLength < data.length
  fits : ∀ data, found = some data → data.length ≤ roomLength
  exhausted : found = none → ∀ socket, after.socket member = some socket → socket.descriptor.readable = false
  others : ∀ other, other ≠ member → after.socket other = before.socket other

theorem pullSocket_polls (member : Family) (peaceful : kernel.Peaceful family) :
    ∃ after dropped found, Pulls.pullSocket member kernel = (after, arrived found) ∧
      Polls family member kernel after dropped found := by
  change ∃ after dropped found, kernel.pullSocket member = (after, arrived found) ∧ _
  unfold pullSocket receive
  cases known : kernel.socket member with
  | none =>
    have absent (socket : UdpSocket) (same : kernel.socket member = some socket) : socket.descriptor.readable = false := by
      rw [known] at same
      cases same
    exact ⟨kernel, [], none, rfl, .refl peaceful, nofun, nofun, fun _ => absent, fun _ _ => rfl⟩
  | some socket =>
    have calm := peaceful.sockets member socket known
    have received := UdpSocket.receiveWithin_serves (UdpSocket.passes socket.descriptor + 1)
      (List.replicate roomLength 0) calm (Nat.lt_succ_self _)
    rw [List.length_replicate] at received
    change ∃ dropped found, UdpSocket.Receives roomLength socket.descriptor
      (UdpSocket.receive (List.replicate roomLength 0) socket.descriptor) dropped found at received
    obtain ⟨dropped, found, receives⟩ := received
    simp only
    generalize UdpSocket.receive (List.replicate roomLength 0) socket.descriptor = receiving at receives
    have placed := Serves.onSocket peaceful known receives.serves
    have noted := say_serves receiving.notices placed.peaceful
    refine ⟨_, dropped, found, Prod.ext rfl ?_, ?_, receives.oversized, fun data same => (receives.front data same).1,
      ?_, ?_⟩
    · rw [receives.outcome]
      cases same : found with
      | none => rfl
      | some data =>
        have front := (receives.front data same).2
        simp only [arrived, Option.map_some, Except.map, Received.delivery, front]
    · exact placed.still noted
    · intro none other same
      rw [socket_say, socket_withSocket] at same
      cases same
      exact receives.exhausted none
    · intro other different
      rw [socket_say, socket_withOther _ _ different]

theorem loud_polled {setup : Setup} {member : Family} {before after : Kernel} {dropped : List Bytes}
    {found : Option Bytes} (polls : Polls family member before after dropped found) :
    loud (Deed.ofSocket setup member (arrived found)) =
      ((dropped ++ found.toList).filterMap (accepted? setup)).map Deed.write := by
  rw [loud_ofSocket, List.filterMap_append, accepted?_oversized polls.oversized, List.nil_append]
  cases same : found with
  | none => rfl
  | some data =>
    simp only [arrived, Option.map_some, inboundDeeds, inbound_datagram setup member (polls.fits data same),
      Option.toList_some]
    cases called : accepted? setup data <;> simp [called]

-- What a look leaves and shows: the datagrams taken call for their frames, and if there are none then
-- the socket has been read to its end.
structure Looks (setup : Setup) (family : Family) (before after : Kernel) (intake : Intake) (taken : List Bytes) :
    Prop where
  serves : Serves family before after taken []
  news : intake.news = none
  deeds : loud (intake.deeds setup) = (taken.filterMap (accepted? setup)).map Deed.write
  busy : intake.events.isReady = true → taken ≠ []
  exhausted : intake.events.isReady = false →
    ∀ socket, after.socket family = some socket → socket.descriptor.readable = false

structure Yields (setup : Setup) (family member : Family) (before after : Kernel) (dropped : List Bytes)
    (found : Option Bytes) : Prop where
  serves : Serves family before after (dropped ++ found.toList) []
  deeds : loud (Deed.ofSocket setup member (arrived found)) =
    ((dropped ++ found.toList).filterMap (accepted? setup)).map Deed.write
  exhausted : setup.hasSocket member = true → found = none →
    ∀ socket, after.socket member = some socket → socket.descriptor.readable = false
  others : ∀ other, other ≠ member → after.socket other = before.socket other

theorem pullSocket_yields (setup : Setup) (member : Family) (station : Station Kernel)
    (peaceful : station.host.Peaceful family) :
    ∃ after dropped found, Unbuffered.pullSocket setup member station =
        ({ station with host := after }, arrived found) ∧
      Yields setup family member station.host after dropped found := by
  unfold Unbuffered.pullSocket
  by_cases present : setup.hasSocket member = true
  · obtain ⟨after, dropped, found, pulled, polls⟩ := pullSocket_polls member peaceful
    rw [if_pos present, pulled]
    exact ⟨after, dropped, found, rfl, polls.serves, loud_polled polls, fun _ => polls.exhausted, polls.others⟩
  · rw [if_neg present]
    exact ⟨station.host, [], none, rfl, .refl peaceful, rfl, fun claimed => absurd claimed present, fun _ _ => rfl⟩

theorem hear_unheard {station : Station Kernel} (unsignalled : station.host.signal = .never) :
    Unbuffered.hear station = (station, none) := by
  have heard : Host.hear station.host = (none, station.host) := by
    change station.host.hear = _
    rw [hear, unsignalled]
    rfl
  unfold Unbuffered.hear
  rw [heard]
  split <;> rfl

theorem look_looks {setup : Setup} {station : Station Kernel} (present : setup.hasSocket family = true)
    (peaceful : station.host.Peaceful family) :
    ∃ after intake taken, Unbuffered.look setup station = ({ station with host := after }, intake) ∧
      Looks setup family station.host after intake taken := by
  obtain ⟨first, pulled, serves⟩ := pullTunnel_serves peaceful
  obtain ⟨second, dropped4, found4, pulled4, serves4, deeds4, exhausted4, _⟩ :=
    pullSocket_yields setup .v4 { station with host := first } serves.peaceful
  obtain ⟨third, dropped6, found6, pulled6, serves6, deeds6, exhausted6, others6⟩ :=
    pullSocket_yields setup .v6 { station with host := second } serves4.peaceful
  have tunnel : Unbuffered.pullTunnel station = ({ station with host := first }, none) := by
    rw [Unbuffered.pullTunnel, pulled]
  refine ⟨third, ⟨none, none, arrived found4, arrived found6⟩, _, ?_, (serves.trans serves4).trans serves6, rfl, ?_,
    ?_, ?_⟩
  · simp only [Unbuffered.look, Unbuffered.pullAll, hear_unheard peaceful.signal, tunnel, pulled4, pulled6]
  · rw [Intake.deeds, loud_append, loud_append, deeds4, deeds6, ← List.map_append, ← List.filterMap_append]
    rfl
  · intro ready empty
    simp only [List.nil_append, List.append_eq_nil_iff, Option.toList_eq_nil_iff] at empty
    obtain ⟨⟨_, none4⟩, _, none6⟩ := empty
    rw [none4, none6] at ready
    cases ready
  · intro waiting
    simp only [Events.isReady, Intake.events, arrived, Option.isSome_map, Option.isSome_none, Bool.false_or,
      Bool.or_eq_false_iff, Option.isSome_eq_false_iff, Option.isNone_iff_eq_none] at waiting
    obtain ⟨none4, none6⟩ := waiting
    cases family with
    | v4 =>
      rw [others6 .v4 (by decide)]
      exact exhausted4 present none4
    | v6 => exact exhausted6 present none6

-- A socket that has been read to its end, with no edge to come, has nothing left.
theorem left_eq_nil (peaceful : kernel.Peaceful family)
    (exhausted : ∀ socket, kernel.socket family = some socket → socket.descriptor.readable = false)
    (unedged : ∀ descriptor ∈ kernel.descriptors, descriptor.edge = false) : kernel.left family = [] := by
  unfold left
  cases known : kernel.socket family with
  | none => rfl
  | some socket =>
    have member : socket.descriptor ∈ kernel.descriptors := by
      cases family with
      | v4 =>
        have known : kernel.socket4 = some socket := known
        simp [descriptors, known]
      | v6 =>
        have known : kernel.socket6 = some socket := known
        simp [descriptors, known]
    have reads := (peaceful.sockets family socket known).reads
    rw [exhausted socket known, unedged _ member] at reads
    have empty : socket.descriptor.incoming = [] := by simpa using reads
    simp [Descriptor.datagrams, empty]

inductive Waits (setup : Setup) (family : Family) (before : Station Kernel) : Unbuffered.Pause Kernel → Prop where
  | ready (serves : Serves family before.host after taken []) (busy : taken ≠ []) (news : intake.news = none)
      (deeds : loud (intake.deeds setup) = (taken.filterMap (accepted? setup)).map Deed.write) :
      Waits setup family before (.ready { before with host := after } intake)
  | idle (serves : Serves family before.host after taken []) (refused : taken.filterMap (accepted? setup) = [])
      (empty : after.left family = []) : Waits setup family before (.idle { before with host := after })
  | stuck (serves : Serves family before.host after taken []) (refused : taken.filterMap (accepted? setup) = [])
      (empty : after.left family = []) : Waits setup family before (.stuck { before with host := after })

-- What a first stretch of a wait took without an event does not change how the wait ends.
theorem Waits.after {setup : Setup} {before : Station Kernel} {middle : Kernel} {pause : Unbuffered.Pause Kernel}
    (serves : Serves family before.host middle dropped []) (refused : dropped.filterMap (accepted? setup) = [])
    (waits : Waits setup family { before with host := middle } pause) : Waits setup family before pause := by
  cases waits with
  | ready rest busy news deeds =>
    refine .ready (serves.trans rest) ?_ news ?_
    · exact fun empty => busy (List.append_eq_nil_iff.mp empty).2
    · rw [deeds, List.filterMap_append, refused, List.nil_append]
  | idle rest others empty => exact .idle (serves.trans rest) (by rw [List.filterMap_append, refused, others]; rfl) empty
  | stuck rest others empty => exact .stuck (serves.trans rest) (by rw [List.filterMap_append, refused, others]; rfl) empty

theorem eq_of_unready {intake : Intake} (waiting : intake.events.isReady = false) :
    intake = ⟨none, none, none, none⟩ := by
  obtain ⟨news, tunnel, socket4, socket6⟩ := intake
  simp only [Events.isReady, Intake.events, Option.isSome_map, Bool.or_eq_false_iff, Option.isSome_eq_false_iff,
    Option.isNone_iff_eq_none] at waiting
  obtain ⟨⟨⟨rfl, rfl⟩, rfl⟩, rfl⟩ := waiting
  rfl

theorem waitUntil_waits {setup : Setup} {before : Station Kernel} (fuel : Nat) (deadline : Option Nat)
    (present : setup.hasSocket family = true) (peaceful : before.host.Peaceful family)
    (enough : before.host.load < fuel) :
    Waits setup family before (Unbuffered.waitUntil setup deadline fuel before) := by
  induction fuel generalizing before with
  | zero => exact absurd enough (Nat.not_lt_zero _)
  | succ fuel ih =>
    obtain ⟨after, intake, taken, looked, looks⟩ := look_looks present peaceful
    unfold Unbuffered.waitUntil
    rw [looked]
    cases ready : intake.events.isReady with
    | true =>
      simp only [ready, if_true]
      exact .ready looks.serves (looks.busy ready) looks.news looks.deeds
    | false =>
      have nothing := looks.deeds
      rw [eq_of_unready ready] at nothing
      have refused : taken.filterMap (accepted? setup) = [] := List.map_eq_nil_iff.mp nothing.symm
      have lighter := looks.serves.load
      simp only [ready]
      obtain ⟨awake, woken, wakes, less⟩ | ⟨waking, asleep, answered, still, rests, unedged⟩ :=
        await_serves looks.serves.peaceful deadline
      · change Host.await deadline after = _ at woken
        rw [woken]
        have rest := @ih { before with host := awake } wakes.peaceful (by simp only; omega)
        exact rest.after (looks.serves.still wakes) refused
      · have empty := rests.left
        rw [left_eq_nil looks.serves.peaceful (looks.exhausted ready) unedged] at empty
        have gone := looks.serves.still rests
        change Host.await deadline after = _ at answered
        rw [answered]
        cases waking with
        | woken => exact absurd rfl still
        | timedOut => exact .idle gone refused empty.symm
        | never => exact .stuck gone refused empty.symm

-- An iteration writes the frames of the datagrams that it takes; one that takes none is the last.
structure Serving (setup : Setup) (family : Family) (before after : Kernel) (ending : Option Ending) (taken : List Bytes) :
    Prop where
  serves : Serves family before after taken (taken.filterMap (accepted? setup))
  busy : ending = none → taken ≠ []
  done : ∀ final, ending = some final → after.left family = [] ∧ ∀ cause, final ≠ .failed cause

theorem iterate_serving {setup : Setup} {before : Station Kernel} (present : setup.hasSocket family = true)
    (running : before.closing = false) (peaceful : before.host.Peaceful family) :
    ∃ after ending taken, Unbuffered.iterate setup before = ({ before with host := after }, ending) ∧
      Serving setup family before.host after ending taken := by
  have waits := waitUntil_waits (Host.pending before.host + 1) (setup.idleTimeout.map (Host.now before.host + ·))
    present peaceful (Nat.lt_succ_of_lt (load_lt_pending before.host))
  change Waits setup family before (Unbuffered.wait setup before) at waits
  unfold Unbuffered.iterate
  rw [if_neg (by simp [running])]
  generalize Unbuffered.wait setup before = pause at waits
  cases waits with
  | @ready after taken intake serves busy news deeds =>
    obtain ⟨final, acted, wrote⟩ := act_serves serves.peaceful deeds
    have both := serves.trans wrote
    rw [List.append_nil, List.nil_append] at both
    refine ⟨final, none, taken, ?_, both, fun _ => busy, fun _ same => by cases same⟩
    simp only [Unbuffered.handle, news, Unbuffered.heed, acted]
  | @idle after taken serves refused empty =>
    have noted : Serves family after (Host.say .noActivity after) [] [] := say_serves [.noActivity] serves.peaceful
    refine ⟨_, _, taken, rfl, refused.symm ▸ serves.still noted, fun same => (by cases same), ?_⟩
    intro ending same
    cases same
    exact ⟨noted.left.symm.trans empty, by simp⟩
  | @stuck after taken serves refused empty =>
    refine ⟨_, _, taken, rfl, refused.symm ▸ serves, fun same => (by cases same), ?_⟩
    intro ending same
    cases same
    exact ⟨empty, by simp⟩

theorem loop_serving {setup : Setup} {before : Station Kernel} (fuel : Nat) (present : setup.hasSocket family = true)
    (running : before.closing = false) (peaceful : before.host.Peaceful family) (enough : before.host.load < fuel) :
    ∃ taken, Serving setup family before.host (Unbuffered.loop setup fuel before).1.host
      (some (Unbuffered.loop setup fuel before).2) taken := by
  induction fuel generalizing before with
  | zero => exact absurd enough (Nat.not_lt_zero _)
  | succ fuel ih =>
    obtain ⟨after, ending, taken, iterated, serving⟩ := iterate_serving present running peaceful
    unfold Unbuffered.loop
    rw [iterated]
    cases ending with
    | some ending => exact ⟨taken, serving⟩
    | none =>
      have lighter := serving.serves.load
      have some_ : 0 < taken.length := List.length_pos_iff.mpr (serving.busy rfl)
      obtain ⟨others, rest⟩ := @ih { before with host := after } running serving.serves.peaceful
        (by simp only; omega)
      refine ⟨taken ++ others, ?_, fun same => (by cases same), rest.done⟩
      rw [List.filterMap_append]
      exact serving.serves.trans rest.serves

-- A forwarder writes the frames of all datagrams of its socket, whatever it has to wait for.
theorem run_receives {setup : Setup} (present : setup.hasSocket family = true) (peaceful : kernel.Peaceful family) :
    (Forwarder.run setup kernel).1.host.written =
      kernel.written ++ (kernel.left family).filterMap (accepted? setup) := by
  have noted : Serves family kernel (Host.say (.running setup.mode) kernel) [] [] :=
    say_serves [.running setup.mode] peaceful
  have enough : (Unbuffered.started setup kernel).host.load < Host.pending kernel + 3 := by
    have lighter := noted.load
    have fuel : kernel.load < Host.pending kernel := load_lt_pending kernel
    simp only [Unbuffered.started, List.length_nil] at lighter ⊢
    omega
  obtain ⟨taken, serving⟩ := @loop_serving family setup (Unbuffered.started setup kernel) _ present rfl noted.peaceful enough
  have serves := noted.trans serving.serves
  rw [← (Unbuffered.run_erase setup kernel).1] at serves serving
  have all := serves.left
  rw [(serving.done _ rfl).1, List.append_nil, List.nil_append] at all
  rw [all]
  exact serves.written

end Kernel

def Entry.packet? : Entry → Option Bytes
  | .send _ packet _ (.ok _) => some packet
  | _ => none

def sent (trace : List Entry) : List Bytes := trace.filterMap Entry.packet?

def fits (packet : Bytes) : Bool := 33 ≤ packet.length ∧ packet.length ≤ 2044

theorem strip_accepted {setup : Setup} {packets : List Bytes}
    (named : ∀ packet ∈ packets, ∃ inner, familyOf? packet = some inner) :
    (packets.filterMap (accepted? setup)).map (stripFraming? setup.framingLength) = (packets.filter fits).map some := by
  induction packets with
  | nil => rfl
  | cons packet rest ih =>
    obtain ⟨inner, family⟩ := named packet (List.mem_cons_self ..)
    have others := ih fun other member => named other (List.mem_cons_of_mem _ member)
    by_cases fit : 33 ≤ packet.length ∧ packet.length ≤ 2044
    · have accepted : accepted? setup packet = some (setup.enframe inner packet) := by
        rw [accepted?, if_pos fit, family]
        rfl
      rw [List.filterMap_cons_some accepted, List.filter_cons_of_pos (by simp [fits, fit]), List.map_cons, List.map_cons,
        others, strip_enframe]
    · have refused : accepted? setup packet = none := if_neg fit
      rw [List.filterMap_cons_none refused, List.filter_cons_of_neg (by simpa [fits] using fit), others]

-- A packet that is sent is a whole packet of a known family, and as long as the buffer and the
-- framing allow at most.
theorem verdict_forwarded {setup : Setup} {frame packet : Bytes} {family : Family} {peer : Endpoint}
    (decided : verdict setup frame = .forwarded family packet peer) :
    familyOf? packet = some family ∧ packet = frame.drop setup.framingLength := by
  simp only [verdict] at decided
  split at decided
  · cases decided
  · split at decided
    · cases decided
    · rename_i named
      split at decided
      · split at decided
        · cases decided
        · split at decided
          · cases decided
            exact ⟨named, rfl⟩
          · cases decided
      · cases decided

def Verdict.packet? (decided : Verdict) : Option Bytes := decided.datagram?.map (·.2.1)

theorem sent_flawless {trace : List Entry} (flawless : ∀ entry ∈ trace, entry.hasFailed = false) :
    sent trace = (sends trace).map (·.2.1) := by
  induction trace with
  | nil => rfl
  | cons entry rest ih =>
    have succeeded := flawless entry (List.mem_cons_self ..)
    have others := ih fun other member => flawless other (List.mem_cons_of_mem _ member)
    cases entry with
    | read device outcome => exact others
    | write frame outcome => exact others
    | send family packet peer outcome =>
      cases outcome with
      | ok => exact congrArg (packet :: ·) others
      | error cause => cases succeeded

theorem mem_sent {trace : List Entry} {packet : Bytes} (member : packet ∈ sent trace) :
    ∃ family peer, (family, packet, peer) ∈ sends trace := by
  obtain ⟨entry, among, got⟩ := List.mem_filterMap.mp member
  cases entry with
  | read device outcome => cases got
  | write frame outcome => cases got
  | send family other peer outcome =>
    cases outcome with
    | ok =>
      cases got
      exact ⟨family, peer, List.mem_filterMap.mpr ⟨_, among, rfl⟩⟩
    | error cause => cases got

theorem sent_bounds {setup : Setup} {taken : List (Scheduled Bytes)} {trace : List Entry} {ending : Ending}
    (forwarded : Forwarded setup taken trace ending) {packet : Bytes} (member : packet ∈ sent trace) :
    (∃ family, familyOf? packet = some family) ∧ packet.length ≤ 2048 ∧
      (setup.framing = true → packet.length ≤ 2044) := by
  obtain ⟨family, peer, among⟩ := mem_sent member
  rw [forwarded.sends] at among
  obtain ⟨frame, read, decided⟩ := List.mem_filterMap.mp among
  obtain ⟨event, _, delivered⟩ := List.mem_filterMap.mp read
  have short : frame.length ≤ 2048 := by
    unfold Scheduled.frame? at delivered
    split at delivered
    · cases delivered
      exact List.length_take_le _ _
    · cases delivered
  cases outcome : verdict setup frame with
  | forwarded family packet peer =>
    rw [outcome] at decided
    cases decided
    obtain ⟨named, rfl⟩ := verdict_forwarded outcome
    refine ⟨⟨_, named⟩, ?_, ?_⟩
    · rw [List.length_drop]
      omega
    · intro framing
      rw [List.length_drop, Setup.framingLength, framing]
      simp only [if_true, framingLength]
      omega
  | unknown target =>
    rw [outcome] at decided
    cases decided
  | dropped =>
    rw [outcome] at decided
    cases decided

-- `near` sends the packets of the frames that it reads; `far` writes those of 33 to 2044 octets, each
-- once, unaltered and in order. Longer ones only come without framing.
structure Transparent (near far : Setup) (script : Script) (kernel : Kernel) : Prop where
  read : (∀ entry ∈ (Forwarder.run near script).1.host.trace, entry.hasFailed = false) →
    ∃ taken, script.tunnel = taken ++ (Forwarder.run near script).1.host.tunnel ∧
      sent (Forwarder.run near script).1.host.trace =
        (taken.filterMap Scheduled.frame?).filterMap fun frame => (verdict near frame).packet?
  written : ∃ frames, (Forwarder.run far kernel).1.host.written = kernel.written ++ frames ∧
    frames.map (stripFraming? far.framingLength) =
      ((sent (Forwarder.run near script).1.host.trace).filter fits).map some
  longest : ∀ packet ∈ sent (Forwarder.run near script).1.host.trace,
    packet.length ≤ 2048 ∧ (near.framing = true → packet.length ≤ 2044)

-- The network brings everything that `near` sends to one socket of `far`, and nothing else happens
-- there; `near` may run over any script.
theorem tunnel_transparent {near far : Setup} {script : Script} {kernel : Kernel} {family : Family}
    (fresh : script.trace = []) (listening : far.hasSocket family = true) (peaceful : kernel.Peaceful family)
    (network : kernel.left family = sent (Forwarder.run near script).1.host.trace) :
    Transparent near far script kernel := by
  obtain ⟨iterations, finished, chronicle, outcome⟩ := Forwarder.run_chronicle near script
  obtain ⟨tunnel, _, _, trace⟩ := chronicle.told
  have forwarded := chronicle.forwarded
  change finished.host.trace = script.trace ++ _ at trace
  rw [fresh, List.nil_append] at trace
  rw [← trace] at forwarded
  have host : (Forwarder.run near script).1.host = finished.host := by rw [outcome]
  rw [host] at network
  refine ⟨?_, ⟨_, Kernel.run_receives listening peaceful, ?_⟩, ?_⟩
  · rw [host]
    intro flawless
    refine ⟨_, tunnel, ?_⟩
    rw [sent_flawless flawless, forwarded.sends, List.map_filterMap]
    rfl
  · rw [host, network]
    exact strip_accepted fun packet member => (sent_bounds forwarded member).1
  · rw [host]
    exact fun packet member => (sent_bounds forwarded member).2

def loopback (framing : Bool) : Setup where
  mode := .v4
  privates := ⟨some (.ofOctets 10 0 0 2), none⟩
  listens := ⟨some (.ofOctets 127 0 0 1), none⟩
  tunName := "tun0"
  port := 5000
  peers := { entries := [(.v4 (.ofOctets 10 0 0 2), .v4 (.ofOctets 127 0 0 1) 5000)] }
  idleTimeout := some 1000
  closeTimeout := 0
  initialSleep := 0
  framing := framing
  capturePath := none

def bareHeader : Bytes := 0x45 :: List.replicate 15 0 ++ [10, 0, 0, 2]

def smallPacket : Bytes := bareHeader ++ List.replicate 20 7

def reading (frames : List Bytes) : Script where
  mode := .v4
  now := 0
  sleep := id
  tunnel := frames.map fun frame => ⟨5, .ok frame⟩
  socket4 := []
  socket6 := []
  tunnelResults := []
  results4 := []
  results6 := []
  shutdown := none
  recording := none
  trace := []
  log := []

def receiving (packets : List Bytes) : Kernel where
  now := 0
  sleep := id
  tunnel := some ⟨"tun0", .opened [.again] [.again] []⟩
  socket4 := some ⟨.v4 (.ofOctets 127 0 0 1) 5000, .opened (.again :: packets.map .data) [] []⟩
  socket6 := none
  signal := .never
  recording := none
  log := []

theorem peaceful_receiving (packets : List Bytes) : (receiving packets).Peaceful .v4 where
  tunnel := ⟨_, rfl⟩
  device device known := by
    cases known
    exact ⟨Descriptor.peaceful_opened (by simp) (by simp), rfl⟩
  sockets member socket known := by
    cases member with
    | v4 =>
      cases known
      exact Descriptor.peaceful_opened (by simp) (by simp)
    | v6 => cases known
  silent other socket different known := by
    cases other with
    | v4 => exact absurd rfl different
    | v6 => cases known
  signal := rfl

theorem tunnel_transparent_loopback :
    (reading [bareHeader, smallPacket]).trace = [] ∧ (loopback true).hasSocket .v4 = true ∧
      (receiving [bareHeader, smallPacket]).Peaceful .v4 ∧
      (receiving [bareHeader, smallPacket]).left .v4 =
        sent (Forwarder.run (loopback false) (reading [bareHeader, smallPacket])).1.host.trace ∧
      Transparent (loopback false) (loopback true) (reading [bareHeader, smallPacket])
        (receiving [bareHeader, smallPacket]) :=
  ⟨rfl, rfl, peaceful_receiving _, by decide +kernel,
    tunnel_transparent rfl rfl (peaceful_receiving _) (by decide +kernel)⟩

end IpTunnel
