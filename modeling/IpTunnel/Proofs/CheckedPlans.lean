import IpTunnel.Proofs.CheckedWrites
import IpTunnel.Proofs.Verdict

namespace IpTunnel

def minus? (whole part : Nat) : Option Nat := if part ≤ whole then some (whole - part) else none

theorem minus?_framing (setup : Setup) :
    minus? framingLength setup.framingLength = some (framingLength - setup.framingLength) := by
  apply if_pos
  unfold Setup.framingLength
  split
  · exact Nat.le_refl _
  · exact Nat.zero_le _

def route? (packet : Bytes) (peers : PeerTable) : Option Routed := do
  let header ← Header.read? packet
  match header with
  | .error (.unsupportedVersion nibble) => some ⟨[.unsupportedPacket nibble packet], .ok .drop⟩
  | .error cause => some ⟨[.malformedPacket cause], .ok .drop⟩
  | .ok header =>
    match peers.lookup header.target with
    | some peer => some ⟨[.routing header], .ok (.forward header.target.family peer)⟩
    | none => some ⟨[.routing header], .error (.peerNotFound header.target)⟩

theorem route?_eq (packet : Bytes) (peers : PeerTable) : route? packet peers = some (route packet peers) := by
  rw [route?, route, Header.read?_eq]
  simp only [Option.bind_eq_bind, Option.bind_some]
  cases Header.read packet with
  | error cause => cases cause <;> rfl
  | ok header => cases found : peers.lookup header.target <;> simp only [found]

namespace Plan

def ofPacket? (setup : Setup) (packet : Bytes) : Option (List Deed) :=
  if isForeign setup packet then some [.say (.noSocketInMode setup.mode packet)]
  else do
    let routed ← route? packet setup.peers
    some (routed.notices.map .say ++
      match routed.outcome with
      | .error cause => [.fail cause]
      | .ok .drop => []
      | .ok (.forward family peer) =>
        if setup.hasSocket family then [.send family packet peer, .say (.sent packet.length peer)]
        else [.say (.noSocket family peer)])

def ofFrame? (setup : Setup) (frame : Bytes) : Option (List Deed) :=
  match stripFraming? setup.framingLength frame with
  | none => some [.say (.readFrame frame), .say .shortFrame]
  | some packet => do
    let deeds ← ofPacket? setup packet
    some (.say (.readFrame frame) :: .capture packet :: deeds)

theorem ofFrame?_eq (setup : Setup) (frame : Bytes) : ofFrame? setup frame = some (ofFrame setup frame) := by
  unfold ofFrame? ofFrame
  cases stripFraming? setup.framingLength frame with
  | none => rfl
  | some packet =>
    have deeds : ofPacket? setup packet = some (ofPacket setup packet) := by
      unfold ofPacket? ofPacket
      split
      · rfl
      · rw [route?_eq]
        rfl
    simp only [deeds, Option.bind_eq_bind, Option.bind_some]

def enframe? (setup : Setup) (version : Version) (buffer : Bytes) (stop : Nat) (deeds : Bytes → List Deed) :
    Option Plan := do
  let start ← minus? framingLength setup.framingLength
  let framed ←
    if 0 < setup.framingLength then do
      let part ← buffer.slice? start buffer.length
      let written ← version.writeFraming? part
      buffer.put? ⟨start, buffer.length, written.buffer⟩
    else some buffer
  let frame ← framed.slice? start stop
  some ⟨deeds frame, framed⟩

theorem enframe?_eq (setup : Setup) (version : Version) {buffer : Bytes} {stop : Nat} (deeds : Bytes → List Deed)
    (behind : framingLength ≤ stop) (inside : stop ≤ buffer.length) :
    enframe? setup version buffer stop deeds = some (enframe setup version buffer stop deeds) := by
  have room : framingLength ≤ buffer.length := Nat.le_trans behind inside
  unfold enframe? enframe
  rw [minus?_framing]
  cases framing : setup.framing with
  | false =>
    have held := Bytes.slice?_eq_some.mpr ⟨behind, inside, rfl⟩
    simp [Setup.framingLength, framing, held]
  | true =>
    have written : (version.writeFraming buffer) = ⟨buffer.overwrite 0 version.framing, .ok framingLength⟩ :=
      if_neg (Nat.not_lt.mpr room)
    have size : (buffer.overwrite 0 version.framing).length = buffer.length := by
      apply Bytes.length_overwrite
      rw [Version.length_framing, Nat.zero_add]
      exact room
    have whole : buffer.slice? 0 buffer.length = some buffer := by
      rw [Bytes.slice?_take (Nat.le_refl _), List.take_length]
    have placed : buffer.put? ⟨0, buffer.length, buffer.overwrite 0 version.framing⟩ =
        some (buffer.overwrite 0 version.framing) := by
      rw [Bytes.put?_front (Nat.le_refl _) size, Bytes.overwrite_whole size]
    have held : (buffer.overwrite 0 version.framing).slice? 0 stop =
        some ((buffer.overwrite 0 version.framing).take stop) := Bytes.slice?_take (size.symm ▸ inside)
    simp [Setup.framingLength, framing, show 0 < framingLength by decide, whole, Version.writeFraming?_eq _ room,
      written, placed, held]

def ofDatagram? (setup : Setup) (family : Family) (buffer : Bytes) (length : Nat) : Option Plan := do
  let datagram ← buffer.slice? framingLength (framingLength + length)
  if length ≤ longestProbe then some ⟨[.say (.shortDatagram family datagram)], buffer⟩
  else
    match Version.ofPacket? datagram with
    | some (.known inner) => do
      let plan ← enframe? setup (.known inner) buffer (framingLength + length) fun frame =>
        [.write frame, .say (.wrote frame.length)]
      some (after [.say (.received family datagram), .capture datagram] plan)
    | _ => some ⟨[.say (.received family datagram), .say (.notIp family datagram)], buffer⟩

def deliver? (setup : Setup) (target : IpAddress) (forged : Bytes) (length : Nat) : Option Plan := do
  let packet ← forged.slice? framingLength (framingLength + length)
  let plan ← enframe? setup (.known target.family) forged (framingLength + length) fun frame =>
    [.say (.writingForged frame), .write frame]
  some (after [.capture packet] plan)

def ofReport? (setup : Setup) (family : Family) (error : ExtendedError) (buffer : Bytes) (length : Nat)
    (forged : Bytes) : Option Plan :=
  match error.icmp? with
  | none => some ⟨[.say (.notIcmp family error)], forged⟩
  | some message =>
    match setup.privateAddress (.known family) with
    | none => some ⟨[.say (.receivedIcmp message), .say (.noPrivateTarget family message)], forged⟩
    | some target => do
      let fragment ← buffer.slice? framingLength (framingLength + length)
      let part ← forged.slice? framingLength forged.length
      let written ← message.forge? fragment target part
      let forged ← forged.put? ⟨framingLength, forged.length, written.buffer⟩
      match written.outcome with
      | .error cause => some ⟨[.say (.receivedIcmp message), .say (.forgeFailed message cause)], forged⟩
      | .ok count => do
        let plan ← deliver? setup target forged count
        some (after [.say (.receivedIcmp message)] plan)

theorem ofDatagram?_eq (setup : Setup) (family : Family) {buffer : Bytes} {length : Nat}
    (inside : framingLength + length ≤ buffer.length) :
    ofDatagram? setup family buffer length = some (ofDatagram setup family buffer length) := by
  have behind : framingLength ≤ framingLength + length := Nat.le_add_right _ _
  have held := Bytes.slice?_eq_some.mpr ⟨behind, inside, rfl⟩
  simp only [ofDatagram?, ofDatagram, held, Option.bind_eq_bind, Option.bind_some]
  generalize (buffer.drop framingLength).take (framingLength + length - framingLength) = datagram
  by_cases short : length ≤ longestProbe
  · rw [if_pos short, if_pos short]
  · rw [if_neg short, if_neg short]
    cases Version.ofPacket? datagram with
    | none => rfl
    | some version =>
      cases version with
      | unknown nibble => rfl
      | known inner =>
        simp only [enframe?_eq setup _ _ behind inside, Option.bind_some]
        rfl

theorem deliver?_eq (setup : Setup) (target : IpAddress) {forged : Bytes} {length : Nat}
    (inside : framingLength + length ≤ forged.length) :
    deliver? setup target forged length = some (deliver setup target forged length) := by
  have behind : framingLength ≤ framingLength + length := Nat.le_add_right _ _
  have held := Bytes.slice?_eq_some.mpr ⟨behind, inside, rfl⟩
  simp only [deliver?, deliver, held, Option.bind_eq_bind, Option.bind_some, enframe?_eq setup _ _ behind inside]

-- What is forged has a place behind the room for framing, whatever the fragment.
theorem forge_fits (message : Icmp.Message) (fragment : Bytes) (target : IpAddress) {buffer : Bytes}
    (room : Icmp.forgedIpv6Length ≤ buffer.length) :
    (message.forge fragment target buffer).buffer.length = buffer.length ∧
      ∀ count, (message.forge fragment target buffer).outcome = .ok count → count ≤ buffer.length := by
  rw [Icmp.Message.forge_eq room]
  cases made : message.packet? fragment target with
  | error cause =>
    refine ⟨rfl, ?_⟩
    intro count forged
    cases forged
  | ok packet =>
    have fits := Nat.le_trans (Icmp.Message.length_packet made) room
    refine ⟨Bytes.length_overwrite ((Nat.zero_add _).symm ▸ fits), ?_⟩
    intro count forged
    cases forged
    exact fits

theorem put?_behindFraming {buffer part : Bytes} (room : framingLength ≤ buffer.length)
    (size : part.length = buffer.length - framingLength) :
    buffer.put? ⟨framingLength, buffer.length, part⟩ = some (Buffers.behindFraming buffer part) := by
  have rest : buffer.drop (framingLength + part.length) = [] := by
    apply List.drop_eq_nil_of_le
    omega
  rw [Bytes.put?, if_pos ⟨room, Nat.le_refl _, size⟩, Bytes.overwrite, rest, List.append_nil]
  rfl

theorem ofReport?_eq (setup : Setup) (family : Family) (error : ExtendedError) {buffer forged : Bytes} {length : Nat}
    (inside : framingLength + length ≤ buffer.length)
    (size : forged.length = framingLength + Icmp.forgedIpv6Length) :
    ofReport? setup family error buffer length forged = some (ofReport setup family error buffer length forged) := by
  have behind : framingLength ≤ framingLength + length := Nat.le_add_right _ _
  have held := Bytes.slice?_eq_some.mpr ⟨behind, inside, rfl⟩
  have room : framingLength ≤ forged.length := size ▸ Nat.le_add_right _ _
  have rest : (forged.drop framingLength).length = forged.length - framingLength := List.length_drop
  have enough : Icmp.forgedIpv6Length ≤ (forged.drop framingLength).length := by omega
  unfold ofReport? ofReport
  cases error.icmp? with
  | none => rfl
  | some message =>
    cases setup.privateAddress (.known family) with
    | none => rfl
    | some target =>
      obtain ⟨kept, fits⟩ := forge_fits message
        ((buffer.drop framingLength).take (framingLength + length - framingLength)) target enough
      simp only [held, Bytes.slice?_drop room, Icmp.Message.forge?_eq message _ target enough,
        put?_behindFraming room (kept.trans rest), Option.bind_eq_bind, Option.bind_some]
      generalize message.forge _ target (forged.drop framingLength) = written at kept fits
      cases outcome : written.outcome with
      | error cause => rfl
      | ok count =>
        have within : framingLength + count ≤ (Buffers.behindFraming forged written.buffer).length := by
          have bound := fits count outcome
          rw [Buffers.length_behindFraming room (kept.trans rest)]
          omega
        simp only [deliver?_eq setup target within, Option.bind_some]

end Plan

-- Deeds none of which is the answer to a length that leads outside its buffer.
def Contained (deeds : List Deed) : Prop := Deed.overrun ∉ loud deeds

theorem contained_ofFrame (setup : Setup) (frame : Bytes) : Contained (Plan.ofFrame setup frame) := by
  rw [Contained, loud_ofFrame]
  cases verdict setup frame <;> simp [Verdict.deeds]

theorem contained_ofDatagram (setup : Setup) (family : Family) (datagram : Bytes) :
    Contained (Deed.ofDatagram setup family datagram) := by
  rw [Contained, loud_ofDatagram]
  cases inbound setup family (.datagram datagram) <;> simp

theorem contained_ofReport (setup : Setup) (family : Family) (error : ExtendedError) (fragment : Bytes) :
    Contained (Deed.ofReport setup family error fragment) := by
  rw [Contained, loud_ofReport]
  cases inbound setup family (.report error fragment) <;> simp

end IpTunnel
