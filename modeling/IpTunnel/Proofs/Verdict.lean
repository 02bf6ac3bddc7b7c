import IpTunnel.Proofs.ErrorRecords
import IpTunnel.Proofs.Performed

namespace IpTunnel

-- The family that the upper half of the first octet names.
def familyOf? : Bytes → Option Family
  | [] => none
  | first :: _ =>
    if first.toNat / 16 = 4 then some .v4 else if first.toNat / 16 = 6 then some .v6 else none

def destination? (packet : Bytes) : Family → Option IpAddress
  | .v4 => if complete : 20 ≤ packet.length then some (.v4 (Ipv4.ofSlice packet 16 (by omega))) else none
  | .v6 => if complete : 40 ≤ packet.length then some (.v6 (Ipv6.ofSlice packet 24 (by omega))) else none

theorem familyOf?_eq_some {packet : Bytes} {family : Family} :
    Version.ofPacket? packet = some (.known family) ↔ familyOf? packet = some family := by
  cases packet with
  | nil => simp [Version.ofPacket?, familyOf?]
  | cons first rest =>
    have upper (nibble : UInt8) : first >>> 4 = nibble ↔ first.toNat / 16 = nibble.toNat := by
      rw [← UInt8.toNat_inj, UInt8.toNat_shiftRight]
      exact Iff.of_eq (congrArg (· = nibble.toNat) (Nat.shiftRight_eq_div_pow first.toNat 4))
    simp only [Version.ofPacket?, familyOf?, Version.ofNibble, upper]
    change some (if first.toNat / 16 = 4 then _ else if first.toNat / 16 = 6 then _ else _) = _ ↔ _
    split
    · simp
    · split <;> simp

theorem family_destination? {packet : Bytes} {family : Family} {target : IpAddress}
    (complete : destination? packet family = some target) : target.family = family := by
  cases family <;>
  · simp only [destination?] at complete
    split at complete
    · cases complete
      rfl
    · cases complete

inductive Verdict where
  | forwarded (family : Family) (packet : Bytes) (peer : Endpoint)
  | unknown (target : IpAddress)
  | dropped
deriving DecidableEq

-- What becomes of a frame that was read from the tunnel.
def verdict (setup : Setup) (frame : Bytes) : Verdict :=
  let packet := frame.drop setup.framingLength
  if frame.length < setup.framingLength then .dropped
  else
    match familyOf? packet with
    | none => .dropped
    | some family =>
      if setup.hasSocket family then
        match destination? packet family with
        | none => .dropped
        | some target =>
          match setup.peers.lookup target with
          | some peer => .forwarded family packet peer
          | none => .unknown target
      else .dropped

namespace Verdict

def datagram? : Verdict → Option (Family × Bytes × Endpoint)
  | .forwarded family packet peer => some (family, packet, peer)
  | _ => none

def deeds : Verdict → List Deed
  | .forwarded family packet peer => [.send family packet peer]
  | .unknown target => [.fail (.peerNotFound target)]
  | .dropped => []

end Verdict

-- Notices and captures leave no trace.
def Deed.isLoud : Deed → Bool
  | .say _ => false
  | .capture _ => false
  | _ => true

def loud (deeds : List Deed) : List Deed := deeds.filter Deed.isLoud

@[simp]
theorem loud_nil : loud [] = [] := rfl

theorem loud_append (first second : List Deed) : loud (first ++ second) = loud first ++ loud second :=
  List.filter_append ..

@[simp]
theorem loud_say (notice : Notice) (rest : List Deed) : loud (.say notice :: rest) = loud rest := rfl

@[simp]
theorem loud_capture (packet : Bytes) (rest : List Deed) : loud (.capture packet :: rest) = loud rest := rfl

@[simp]
theorem loud_send (family : Family) (packet : Bytes) (peer : Endpoint) (rest : List Deed) :
    loud (.send family packet peer :: rest) = .send family packet peer :: loud rest := rfl

@[simp]
theorem loud_write (frame : Bytes) (rest : List Deed) : loud (.write frame :: rest) = .write frame :: loud rest := rfl

@[simp]
theorem loud_fail (cause : TunnelError) (rest : List Deed) : loud (.fail cause :: rest) = .fail cause :: loud rest := rfl

@[simp]
theorem loud_overrun (rest : List Deed) : loud (.overrun :: rest) = .overrun :: loud rest := rfl

theorem Performed.loud (performed : Performed deeds entries ending) :
    Performed (IpTunnel.loud deeds) entries ending := by
  induction performed with
  | nil => exact .nil
  | say rest ih => exact ih
  | capture rest ih => exact ih
  | sent rest ih => exact .sent ih
  | unsent => exact .unsent
  | written rest ih => exact .written ih
  | unwritten => exact .unwritten
  | fail => exact .fail
  | overrun => exact .overrun

theorem read_unnamed {packet : Bytes} (unnamed : familyOf? packet = none) :
    ∃ cause, Header.read packet = .error cause := by
  unfold Header.read
  cases version : Version.ofPacket? packet with
  | none => exact ⟨_, rfl⟩
  | some version_ =>
    cases version_ with
    | unknown nibble => exact ⟨_, rfl⟩
    | known family =>
      rw [familyOf?_eq_some.mp version] at unnamed
      cases unnamed

theorem read_named {packet : Bytes} {family : Family} (named : familyOf? packet = some family) :
    match destination? packet family with
    | none => ∃ cause, Header.read packet = .error cause
    | some target => ∃ header, Header.read packet = .ok header ∧ header.target = target := by
  have version := familyOf?_eq_some.mpr named
  cases family with
  | v4 =>
    have read : Header.read packet = Header.readIpv4 packet := by rw [Header.read, version]
    rw [read, Header.readIpv4, destination?]
    by_cases complete : 20 ≤ packet.length
    · simp [complete, Header.target]
    · simp [complete]
  | v6 =>
    have read : Header.read packet = Header.readIpv6 packet := by rw [Header.read, version]
    rw [read, Header.readIpv6, destination?]
    by_cases complete : 40 ≤ packet.length
    · simp [complete, Header.target]
    · simp [complete]

theorem route_unread {packet : Bytes} {cause : IpError} (peers : PeerTable)
    (unread : Header.read packet = .error cause) : ∃ notice, route packet peers = ⟨[notice], .ok .drop⟩ := by
  unfold route
  rw [unread]
  cases cause <;> exact ⟨_, rfl⟩

theorem isForeign_named {packet : Bytes} {family : Family} (setup : Setup) (named : familyOf? packet = some family) :
    Plan.isForeign setup packet = !setup.hasSocket family := by
  rw [Plan.isForeign, familyOf?_eq_some.mpr named]

theorem isForeign_unnamed {packet : Bytes} (setup : Setup) (unnamed : familyOf? packet = none) :
    Plan.isForeign setup packet = false := by
  unfold Plan.isForeign
  split
  · rename_i family version
    rw [familyOf?_eq_some.mp version] at unnamed
    cases unnamed
  · rfl

-- The first octet is looked at twice, before the lookup and by it; both looks agree.
theorem loud_ofFrame (setup : Setup) (frame : Bytes) : loud (Plan.ofFrame setup frame) = (verdict setup frame).deeds := by
  by_cases short : frame.length < setup.framingLength
  · have none : stripFraming? setup.framingLength frame = none := if_neg (Nat.not_le.mpr short)
    simp [Plan.ofFrame, none, verdict, short, Verdict.deeds]
  · have packet : stripFraming? setup.framingLength frame = some (frame.drop setup.framingLength) :=
      if_pos (Nat.not_lt.mp short)
    simp only [Plan.ofFrame, packet, verdict, short, if_false, loud_say, loud_capture]
    generalize frame.drop setup.framingLength = packet
    cases named : familyOf? packet with
    | none =>
      obtain ⟨cause, unread⟩ := read_unnamed named
      obtain ⟨notice, routed⟩ := route_unread setup.peers unread
      simp [Plan.ofPacket, isForeign_unnamed setup named, routed, Verdict.deeds]
    | some family =>
      cases socket : setup.hasSocket family with
      | false => simp [Plan.ofPacket, isForeign_named setup named, socket, Verdict.deeds]
      | true =>
        have read := read_named named
        cases complete : destination? packet family with
        | none =>
          rw [complete] at read
          obtain ⟨cause, unread⟩ := read
          obtain ⟨notice, routed⟩ := route_unread setup.peers unread
          simp [Plan.ofPacket, isForeign_named setup named, socket, complete, routed, Verdict.deeds]
        | some target =>
          rw [complete] at read
          obtain ⟨header, decoded, same⟩ := read
          have known := family_destination? complete
          cases found : setup.peers.lookup target with
          | none =>
            simp [Plan.ofPacket, isForeign_named setup named, socket, complete, route, decoded, same, found,
              Verdict.deeds]
          | some peer =>
            simp [Plan.ofPacket, isForeign_named setup named, socket, complete, route, decoded, same, found, known,
              Verdict.deeds]

def Icmp.Message.forged (message : Icmp.Message) (fragment : Bytes) (target : IpAddress) : Bytes :=
  let written := message.forge fragment target (List.replicate Icmp.forgedIpv6Length 0)
  match written.outcome with
  | .ok length => written.buffer.take length
  | .error _ => []

theorem packet?_eq (message : Icmp.Message) {fragment : Bytes} {target : IpAddress}
    (family : message.offender.family = target.family) (quotable : Icmp.quotedLength ≤ fragment.length) :
    message.packet? fragment target = .ok (message.forged fragment target) := by
  have room : Icmp.forgedIpv6Length ≤ (List.replicate Icmp.forgedIpv6Length (0 : UInt8)).length :=
    Nat.le_of_eq List.length_replicate.symm
  have made : ∃ packet, message.packet? fragment target = .ok packet := by
    unfold Icmp.Message.packet?
    rw [if_neg (Nat.not_lt.mpr quotable)]
    cases offender : message.offender <;> cases target <;> first | exact ⟨_, rfl⟩ | simp [offender, IpAddress.family] at family
  obtain ⟨packet, made⟩ := made
  rw [Icmp.Message.forged, Icmp.Message.forge_eq room, made]
  exact congrArg Except.ok (Bytes.take_overwrite _ _).symm

theorem packet?_refused (message : Icmp.Message) {fragment : Bytes} {target : IpAddress}
    (unfit : ¬ (message.offender.family = target.family ∧ Icmp.quotedLength ≤ fragment.length)) :
    ∃ cause, message.packet? fragment target = .error cause := by
  unfold Icmp.Message.packet?
  by_cases short : fragment.length < Icmp.quotedLength
  · exact ⟨_, if_pos short⟩
  · rw [if_neg short]
    have mixed : message.offender.family ≠ target.family := fun same => unfit ⟨same, Nat.not_lt.mp short⟩
    cases offender : message.offender <;> cases target <;>
      first | exact ⟨_, rfl⟩ | exact absurd (congrArg IpAddress.family offender) mixed

def inbound (setup : Setup) (family : Family) : Delivery → Option Bytes
  | .datagram data =>
    if 32 < data.length then (familyOf? data).map fun inner => setup.enframe inner data else none
  | .report error fragment =>
    match error.offender, setup.privates.get? family with
    | some offender, some target =>
      if (error.origin = .icmp ∨ error.origin = .icmp6) ∧ offender.family = family ∧ 8 ≤ fragment.length then
        some (setup.enframe family (Icmp.Message.forged ⟨error.kind, error.code, error.info, offender⟩ fragment target))
      else none
    | _, _ => none

theorem loud_ofDatagram (setup : Setup) (family : Family) (data : Bytes) :
    loud (Deed.ofDatagram setup family data) = ((inbound setup family (.datagram data)).map Deed.write).toList := by
  simp only [Deed.ofDatagram, inbound]
  by_cases short : data.length ≤ longestProbe
  · have probe : ¬ 32 < data.length := Nat.not_lt.mpr short
    simp [short, probe]
  · have long : 32 < data.length := Nat.not_le.mp short
    simp only [short, long, if_true, if_false, loud_say]
    cases named : familyOf? data with
    | some inner => simp [familyOf?_eq_some.mpr named]
    | none =>
      cases version : Version.ofPacket? data with
      | none => simp
      | some version_ =>
        cases version_ with
        | unknown nibble => simp
        | known inner =>
          rw [familyOf?_eq_some.mp version] at named
          cases named

theorem family_private {setup : Setup} {family : Family} {target : IpAddress}
    (configured : setup.privates.get? family = some target) : target.family = family := by
  cases family <;>
  · simp only [AddressPair.get?, Option.map_eq_some_iff] at configured
    obtain ⟨address, _, rfl⟩ := configured
    rfl

theorem loud_ofReport (setup : Setup) (family : Family) (error : ExtendedError) (fragment : Bytes) :
    loud (Deed.ofReport setup family error fragment) =
      ((inbound setup family (.report error fragment)).map Deed.write).toList := by
  simp only [Deed.ofReport, inbound, ExtendedError.icmp?_eq]
  by_cases origin : error.origin = .icmp ∨ error.origin = .icmp6
  · simp only [origin, if_true, true_and]
    cases error.offender with
    | none => simp
    | some offender =>
      have configured : setup.privateAddress (.known family) = setup.privates.get? family := rfl
      simp only [Option.map_some, configured, loud_say]
      cases found : setup.privates.get? family with
      | none => simp
      | some target =>
        have known := family_private found
        by_cases fits : offender.family = family ∧ 8 ≤ fragment.length
        · obtain ⟨same, quotable⟩ := fits
          have made := packet?_eq ⟨error.kind, error.code, error.info, offender⟩ (same.trans known.symm) quotable
          simp [made, same, quotable, known]
        · obtain ⟨cause, refused⟩ := packet?_refused ⟨error.kind, error.code, error.info, offender⟩ (known ▸ fits)
          simp [refused, fits]
  · simp only [origin, if_false, false_and]
    cases error.offender <;> cases setup.privates.get? family <;> simp

def inboundDeeds (setup : Setup) (family : Family) : Option (Except IoError Delivery) → List Deed
  | none => []
  | some (.error cause) => [.fail (.socketRead cause)]
  | some (.ok delivery) => ((inbound setup family delivery).map Deed.write).toList

theorem loud_ofSocket (setup : Setup) (family : Family) (event : Option (Except IoError Delivery)) :
    loud (Deed.ofSocket setup family event) = inboundDeeds setup family event := by
  cases event with
  | none => rfl
  | some outcome =>
    cases outcome with
    | error cause => rfl
    | ok delivery =>
      cases delivery with
      | datagram data => exact loud_ofDatagram setup family data
      | report error fragment => exact loud_ofReport setup family error fragment

end IpTunnel
