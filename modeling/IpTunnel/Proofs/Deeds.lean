import IpTunnel.Forwarder.Loop
import IpTunnel.Proofs.Forging
import IpTunnel.Proofs.Pulls

namespace IpTunnel

namespace Buffers

structure Sized (buffers : Buffers) : Prop where
  tunnel : buffers.tunnel.length = bufferLength
  datagram : ∀ family, (buffers.datagram family).length = bufferLength
  forged : buffers.forged.length = framingLength + Icmp.forgedIpv6Length

theorem sized_initial : initial.Sized where
  tunnel := List.length_replicate
  datagram family := by cases family <;> exact List.length_replicate
  forged := List.length_replicate

theorem datagram_withDatagram (buffers : Buffers) (family : Family) (buffer : Bytes) :
    (buffers.withDatagram family buffer).datagram family = buffer := by
  cases family <;> rfl

theorem datagram_withOther {family other : Family} (buffers : Buffers) (buffer : Bytes) (different : other ≠ family) :
    (buffers.withDatagram family buffer).datagram other = buffers.datagram other := by
  cases family <;> cases other <;> first | rfl | exact absurd rfl different

theorem tunnel_withDatagram (buffers : Buffers) (family : Family) (buffer : Bytes) :
    (buffers.withDatagram family buffer).tunnel = buffers.tunnel := by
  cases family <;> rfl

theorem Sized.withDatagram {buffers : Buffers} (sized : buffers.Sized) (family : Family)
    (size : buffer.length = bufferLength) : (buffers.withDatagram family buffer).Sized where
  tunnel := by rw [tunnel_withDatagram, sized.tunnel]
  datagram other := by
    by_cases same : other = family
    · rw [same, datagram_withDatagram, size]
    · rw [datagram_withOther _ _ same, sized.datagram]
  forged := by cases family <;> exact sized.forged

theorem Sized.withForged {buffers : Buffers} {packet : Bytes} (sized : buffers.Sized)
    (size : packet.length = framingLength + Icmp.forgedIpv6Length) : { buffers with forged := packet }.Sized where
  tunnel := sized.tunnel
  datagram
    | .v4 => sized.datagram .v4
    | .v6 => sized.datagram .v6
  forged := size

theorem length_behindFraming {buffer part : Bytes} (room : framingLength ≤ buffer.length)
    (size : part.length = buffer.length - framingLength) : (behindFraming buffer part).length = buffer.length := by
  rw [behindFraming, List.length_append, List.length_take, size]
  omega

theorem slice?_behindFraming {buffer part item : Bytes} (room : framingLength ≤ buffer.length)
    (front : part.take item.length = item) :
    (behindFraming buffer part).slice? framingLength (framingLength + item.length) = some item := by
  have before : (buffer.take framingLength).length = framingLength := by
    rw [List.length_take, Nat.min_eq_left room]
  have behind := Bytes.slice?_behind (buffer.take framingLength) front
  rwa [before] at behind

end Buffers

def Family.framing : Family → Bytes
  | .v4 => [0, 0, 0x08, 0x00]
  | .v6 => [0, 0, 0x86, 0xDD]

theorem framing_known (family : Family) : (Version.known family).framing = family.framing := by
  cases family <;> rfl

def Setup.enframe (setup : Setup) (family : Family) (packet : Bytes) : Bytes :=
  (if setup.framing then family.framing else []) ++ packet

theorem strip_enframe (setup : Setup) (family : Family) (packet : Bytes) :
    stripFraming? setup.framingLength (setup.enframe family packet) = some packet := by
  unfold stripFraming? Setup.framingLength Setup.enframe
  cases setup.framing with
  | false => simp
  | true => cases family <;> simp [framingLength, Family.framing]

namespace Plan

theorem enframe_eq (setup : Setup) (family : Family) {buffer packet : Bytes} {stop : Nat}
    (deeds : Bytes → List Deed) (held : buffer.slice? framingLength stop = some packet) :
    (enframe setup (.known family) buffer stop deeds).deeds = deeds (setup.enframe family packet) ∧
      (enframe setup (.known family) buffer stop deeds).buffer.length = buffer.length := by
  obtain ⟨order, bound, content⟩ := Bytes.slice?_eq_some.mp held
  have room : framingLength ≤ buffer.length := Nat.le_trans order bound
  cases framing : setup.framing with
  | false =>
    simp [enframe, Setup.framingLength, Setup.enframe, framing, held]
  | true =>
    have fits : 0 + (Version.known family).framing.length ≤ buffer.length := by
      rw [Version.length_framing, Nat.zero_add]
      exact room
    have size : (buffer.overwrite 0 (Version.known family).framing).length = buffer.length :=
      Bytes.length_overwrite fits
    have front : (Version.known family).framing.take stop = (Version.known family).framing :=
      List.take_of_length_le order
    have frame : (buffer.overwrite 0 (Version.known family).framing).slice? 0 stop =
        some ((Version.known family).framing ++ packet) := by
      refine Bytes.slice?_eq_some.mpr ⟨Nat.zero_le _, size.symm ▸ bound, ?_⟩
      rw [← content, Bytes.overwrite, List.take_zero, List.nil_append, List.drop_zero, Nat.sub_zero,
        List.take_append, front, Nat.zero_add, Version.length_framing]
    have spacious : ¬ buffer.length < framingLength := Nat.not_lt.mpr room
    simp [enframe, Setup.framingLength, Setup.enframe, framing, Version.writeFraming, spacious, frame, size,
      show 0 < framingLength by decide, ← framing_known]

end Plan

namespace Deed

def ofFailure (cause : TunnelError) : List Deed := [.fail cause]

def ofDatagram (setup : Setup) (family : Family) (datagram : Bytes) : List Deed :=
  if datagram.length ≤ longestProbe then [.say (.shortDatagram family datagram)]
  else
    .say (.received family datagram) ::
      match Version.ofPacket? datagram with
      | some (.known inner) =>
        let frame := setup.enframe inner datagram
        [.capture datagram, .write frame, .say (.wrote frame.length)]
      | _ => [.say (.notIp family datagram)]

def ofReport (setup : Setup) (family : Family) (error : ExtendedError) (fragment : Bytes) : List Deed :=
  match error.icmp? with
  | none => [.say (.notIcmp family error)]
  | some message =>
    .say (.receivedIcmp message) ::
      match setup.privateAddress (.known family) with
      | none => [.say (.noPrivateTarget family message)]
      | some target =>
        match message.packet? fragment target with
        | .error cause => [.say (.forgeFailed message cause)]
        | .ok packet =>
          let frame := setup.enframe target.family packet
          [.capture packet, .say (.writingForged frame), .write frame]

def ofDelivery (setup : Setup) (family : Family) : Delivery → List Deed
  | .datagram datagram => ofDatagram setup family datagram
  | .report error fragment => ofReport setup family error fragment

-- A read that failed calls for the end of the run.
def ofTunnel (setup : Setup) : Option (Except IoError Bytes) → List Deed
  | none => []
  | some (.error cause) => ofFailure (.tunnelRead cause)
  | some (.ok frame) => Plan.ofFrame setup frame

def ofSocket (setup : Setup) (family : Family) : Option (Except IoError Delivery) → List Deed
  | none => []
  | some (.error cause) => ofFailure (.socketRead cause)
  | some (.ok delivery) => ofDelivery setup family delivery

end Deed

namespace Plan

theorem ofDatagram_eq (setup : Setup) (family : Family) {buffer datagram : Bytes}
    (held : buffer.slice? framingLength (framingLength + datagram.length) = some datagram) :
    (ofDatagram setup family buffer datagram.length).deeds = Deed.ofDatagram setup family datagram ∧
      (ofDatagram setup family buffer datagram.length).buffer.length = buffer.length := by
  simp only [ofDatagram, held, Deed.ofDatagram]
  by_cases short : datagram.length ≤ longestProbe
  · simp [short]
  · cases found : Version.ofPacket? datagram with
    | none => simp [short, after]
    | some version =>
      cases version with
      | unknown nibble => simp [short, after]
      | known inner =>
        have framed := enframe_eq setup inner (fun frame => [.write frame, .say (.wrote frame.length)]) held
        simp [short, after, framed.1, framed.2]

theorem deliver_eq (setup : Setup) (target : IpAddress) {forged packet : Bytes}
    (held : forged.slice? framingLength (framingLength + packet.length) = some packet) :
    (deliver setup target forged packet.length).deeds =
        [.capture packet, .say (.writingForged (setup.enframe target.family packet)),
          .write (setup.enframe target.family packet)] ∧
      (deliver setup target forged packet.length).buffer.length = forged.length := by
  have framed := enframe_eq setup target.family (fun frame => [.say (.writingForged frame), .write frame]) held
  simp [deliver, held, after, framed.1, framed.2]

theorem ofReport_eq (setup : Setup) (family : Family) (error : ExtendedError) {buffer fragment forged : Bytes}
    (held : buffer.slice? framingLength (framingLength + fragment.length) = some fragment)
    (size : forged.length = framingLength + Icmp.forgedIpv6Length) :
    (ofReport setup family error buffer fragment.length forged).deeds = Deed.ofReport setup family error fragment ∧
      (ofReport setup family error buffer fragment.length forged).buffer.length = forged.length := by
  have room : framingLength ≤ forged.length := size ▸ Nat.le_add_right _ _
  have rest : (forged.drop framingLength).length = Icmp.forgedIpv6Length := by
    rw [List.length_drop, size]
    rfl
  simp only [ofReport, Deed.ofReport]
  cases error.icmp? with
  | none => simp
  | some message =>
    cases setup.privateAddress (.known family) with
    | none => simp [after]
    | some target =>
      simp only [held, after, Icmp.Message.forge_eq (Nat.le_of_eq rest.symm)]
      cases made : message.packet? fragment target with
      | error cause => simp [Buffers.behindFraming]
      | ok packet =>
        have fits : 0 + packet.length ≤ (forged.drop framingLength).length := by
          rw [rest, Nat.zero_add]
          exact Icmp.Message.length_packet made
        have same := (Bytes.length_overwrite fits).trans List.length_drop
        have placed := Buffers.slice?_behindFraming room
          (Bytes.take_overwrite (forged.drop framingLength) packet)
        have delivered := deliver_eq setup target placed
        simp [delivered.1, delivered.2, Buffers.length_behindFraming room same]

end Plan

end IpTunnel
