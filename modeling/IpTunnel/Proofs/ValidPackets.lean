import IpTunnel.Proofs.Forging
import IpTunnel.Proofs.OnesComplement

namespace IpTunnel

theorem Ipv4.ofSlice_eq {data : Bytes} {start : Nat} {address : Ipv4} (inside : start + 4 ≤ data.length)
    (found : (data.drop start).take 4 = address.octets) : Ipv4.ofSlice data start inside = address := by
  cases address
  simpa [Ipv4.ofSlice] using found

theorem Ipv6.ofSlice_eq {data : Bytes} {start : Nat} {address : Ipv6} (inside : start + 16 ≤ data.length)
    (found : (data.drop start).take 16 = address.octets) : Ipv6.ofSlice data start inside = address := by
  cases address
  simpa [Ipv6.ofSlice] using found

namespace Header

theorem read_ipv4 (protocol : Protocol) (source target : Ipv4) (size : UInt16) (payload : Bytes) :
    read (ipv4 protocol source target size ++ payload) = .ok (.v4 protocol source target) := by
  have version : Version.ofPacket? (ipv4 protocol source target size ++ payload) = some (.known .v4) := rfl
  have long : 20 ≤ (ipv4 protocol source target size ++ payload).length := by
    rw [List.length_append, length_ipv4]
    exact Nat.le_add_right _ _
  have from_ : ((ipv4 protocol source target size ++ payload).drop 12).take 4 = source.octets := by
    simp [ipv4, ipv4With, Bytes.be16, List.take_left' source.size]
  have to_ : ((ipv4 protocol source target size ++ payload).drop 16).take 4 = target.octets := by
    have behind : (source.octets ++ (target.octets ++ payload)).drop 4 = target.octets ++ payload :=
      List.drop_left' source.size
    simp [ipv4, ipv4With, Bytes.be16, behind, List.take_left' target.size]
  have number : (ipv4 protocol source target size ++ payload)[9] = protocol.number := rfl
  rw [read, version]
  simp only [readIpv4, long, dif_pos, Ipv4.ofSlice_eq _ from_, Ipv4.ofSlice_eq _ to_, number]

theorem read_ipv6 (protocol : Protocol) (source target : Ipv6) (size : UInt16) (payload : Bytes) :
    read (ipv6 protocol source target size ++ payload) = .ok (.v6 protocol source target) := by
  have version : Version.ofPacket? (ipv6 protocol source target size ++ payload) = some (.known .v6) := rfl
  have long : 40 ≤ (ipv6 protocol source target size ++ payload).length := by
    rw [List.length_append, length_ipv6]
    exact Nat.le_add_right _ _
  have from_ : ((ipv6 protocol source target size ++ payload).drop 8).take 16 = source.octets := by
    simp [ipv6, Bytes.be16, List.take_left' source.size]
  have to_ : ((ipv6 protocol source target size ++ payload).drop 24).take 16 = target.octets := by
    have behind : (source.octets ++ (target.octets ++ payload)).drop 16 = target.octets ++ payload :=
      List.drop_left' source.size
    simp [ipv6, Bytes.be16, behind, List.take_left' target.size]
  have number : (ipv6 protocol source target size ++ payload)[6] = protocol.number := rfl
  rw [read, version]
  simp only [readIpv6, long, dif_pos, Ipv6.ofSlice_eq _ from_, Ipv6.ofSlice_eq _ to_, number]

theorem checksum_ipv4 (protocol : Protocol) (source target : Ipv4) (size : UInt16) :
    checksum (ipv4 protocol source target size) = 0 := by
  have split (sum : UInt16) : ipv4With sum protocol source target size =
      ([0x45, 0] ++ Bytes.be16 size ++ [0, 0, 0, 0, 255, protocol.number]) ++
        (Bytes.be16 sum ++ (source.octets ++ target.octets)) := by
    simp [ipv4With]
  rw [ipv4, split]
  exact Checksum.added_filled (by decide) (by simp) (by rw [split]; rfl)

end Header

namespace Icmp.Message

structure Valid4 (message : Message) (source target : Ipv4) (fragment packet : Bytes) : Prop where
  length : packet.length = 36
  header : Header.read packet = .ok (.v4 ⟨1⟩ source target)
  totalLength : (packet.drop 2).take 2 = [0, 36]
  headerSum : checksum (packet.take 20) = 0
  messageSum : checksum (packet.drop 20) = 0
  kind : (packet.drop 20).take 2 = [message.kind, message.code]
  rest : (packet.drop 24).take 4 =
    if message.kind = 3 ∧ message.code = 4 then [0, 0] ++ Bytes.be16 (UInt16.ofNat (min message.info.toNat 65535))
    else [0, 0, 0, 0]
  quote : packet.drop 28 = fragment.take 8

-- The same of an IPv6 packet; its message verifies together with the pseudo-header.
structure Valid6 (message : Message) (source target : Ipv6) (fragment packet : Bytes) : Prop where
  length : packet.length = 56
  header : Header.read packet = .ok (.v6 ⟨58⟩ source target)
  payloadLength : (packet.drop 4).take 2 = [0, 16]
  messageSum : ((Checksum.pseudoHeader source target ⟨58⟩ 16).add (packet.drop 40)).fold.value = 0
  kind : (packet.drop 40).take 2 = [message.kind, message.code]
  rest : (packet.drop 44).take 4 = if message.kind = 2 then Bytes.be32 message.info else [0, 0, 0, 0]
  quote : packet.drop 48 = fragment.take 8

def Valid (message : Message) (fragment packet : Bytes) (target : IpAddress) : Prop :=
  match message.offender, target with
  | .v4 source, .v4 target => message.Valid4 source target fragment packet
  | .v6 source, .v6 target => message.Valid6 source target fragment packet
  | _, _ => False

def forgedLength : Family → Nat
  | .v4 => 36
  | .v6 => 56

theorem bodyWith_eq (sum : UInt16) (message : Message) (restOfHeader quoted : Bytes) :
    bodyWith sum message restOfHeader quoted =
      [message.kind, message.code] ++ (Bytes.be16 sum ++ (restOfHeader ++ quoted)) := by
  simp [bodyWith]

theorem drop_behind {header body : Bytes} {length : Nat} (size : header.length = length) (count : Nat) :
    (header ++ body).drop (length + count) = body.drop count := by
  rw [← List.drop_drop, List.drop_left' size]

theorem checksum_body4 (message : Message) (quoted : Bytes) : checksum (message.body4 quoted) = 0 := by
  rw [body4, bodyWith_eq]
  exact Checksum.added_filled (by decide) (by simp) (by rw [bodyWith_eq]; rfl)

theorem checksum_body6 (message : Message) (source target : Ipv6) (quoted : Bytes) :
    ((Checksum.pseudoHeader source target .icmp6 messageLength).add (message.body6 source target quoted)).fold.value =
      0 := by
  rw [body6, bodyWith_eq]
  exact Checksum.added_filled (Checksum.add_le _ _) (by simp) (by rw [bodyWith_eq])

theorem valid4 (message : Message) (source target : Ipv4) {fragment : Bytes} (quotable : 8 ≤ fragment.length) :
    message.Valid4 source target fragment
      (Header.ipv4 .icmp source target 36 ++ message.body4 (fragment.take quotedLength)) := by
  have eight := length_quoted quotable
  have header : (Header.ipv4 .icmp source target 36).length = 20 := Header.length_ipv4 ..
  exact {
    length := length_packet4 eight
    header := Header.read_ipv4 _ _ _ _ _
    totalLength := rfl
    headerSum := by
      rw [List.take_left' header]
      exact Header.checksum_ipv4 _ _ _ _
    messageSum := by
      rw [List.drop_left' header]
      exact checksum_body4 _ _
    kind := by
      rw [List.drop_left' header, body4, bodyWith_eq]
      rfl
    rest := by
      rw [drop_behind header 4, body4, bodyWith_eq]
      exact List.take_left' message.length_restOfHeader4
    quote := by
      rw [drop_behind header 8, body4, bodyWith_eq]
      exact List.drop_left' message.length_restOfHeader4 }

theorem valid6 (message : Message) (source target : Ipv6) {fragment : Bytes} (quotable : 8 ≤ fragment.length) :
    message.Valid6 source target fragment
      (Header.ipv6 .icmp6 source target 16 ++ message.body6 source target (fragment.take quotedLength)) := by
  have eight := length_quoted quotable
  have header : (Header.ipv6 .icmp6 source target 16).length = 40 := Header.length_ipv6 ..
  exact {
    length := length_packet6 eight
    header := Header.read_ipv6 _ _ _ _ _
    payloadLength := rfl
    messageSum := by
      rw [List.drop_left' header]
      exact checksum_body6 _ _ _ _
    kind := by
      rw [List.drop_left' header, body6, bodyWith_eq]
      rfl
    rest := by
      rw [drop_behind header 4, body6, bodyWith_eq]
      exact List.take_left' message.length_restOfHeader6
    quote := by
      rw [drop_behind header 8, body6, bodyWith_eq]
      exact List.drop_left' message.length_restOfHeader6 }

theorem overwrite_front (buffer patch : Bytes) : buffer.overwrite 0 patch = patch ++ buffer.drop patch.length := by
  rw [Bytes.overwrite, List.take_zero, List.nil_append, Nat.zero_add]

-- Whatever the message and the buffer, what is forged is accepted; the rest of the buffer is kept.
theorem forge_valid (message : Message) {fragment buffer : Bytes} {target : IpAddress}
    (quotable : 8 ≤ fragment.length) (family : target.family = message.offender.family)
    (room : forgedLength target.family ≤ buffer.length) :
    ∃ packet, packet.length = forgedLength target.family ∧
      message.forge fragment target buffer =
        ⟨packet ++ buffer.drop packet.length, .ok (forgedLength target.family)⟩ ∧
      message.Valid fragment packet target := by
  have eight := length_quoted quotable
  have long : ¬ fragment.length < quotedLength := Nat.not_lt.mpr quotable
  unfold forge Valid
  rw [if_neg long]
  cases offender : message.offender with
  | v4 source =>
    cases target with
    | v4 target =>
      refine ⟨_, length_packet4 eight, ?_, message.valid4 source target quotable⟩
      rw [← overwrite_front]
      exact forgeIpv4_eq eight room
    | v6 target =>
      rw [offender] at family
      cases family
  | v6 source =>
    cases target with
    | v4 target =>
      rw [offender] at family
      cases family
    | v6 target =>
      refine ⟨_, length_packet6 eight, ?_, message.valid6 source target quotable⟩
      rw [← overwrite_front]
      exact forgeIpv6_eq eight room

theorem forge_valid_tooBig :
    8 ≤ (List.replicate 9 (0x60 : UInt8)).length ∧ (IpAddress.v6 ⟨List.replicate 16 1, rfl⟩).family = .v6 ∧
      forgedLength .v6 ≤ (List.replicate 60 (0xAA : UInt8)).length ∧
      ∃ packet, packet.length = forgedLength .v6 ∧
        forge ⟨2, 0, 1280, .v6 ⟨List.replicate 16 2, rfl⟩⟩ (List.replicate 9 0x60) (.v6 ⟨List.replicate 16 1, rfl⟩)
            (List.replicate 60 0xAA) =
          ⟨packet ++ (List.replicate 60 0xAA).drop packet.length, .ok (forgedLength .v6)⟩ ∧
        Valid ⟨2, 0, 1280, .v6 ⟨List.replicate 16 2, rfl⟩⟩ (List.replicate 9 0x60) packet
          (.v6 ⟨List.replicate 16 1, rfl⟩) :=
  ⟨by decide, rfl, by decide,
    @forge_valid ⟨2, 0, 1280, .v6 ⟨List.replicate 16 2, rfl⟩⟩ (List.replicate 9 0x60) (List.replicate 60 0xAA)
      (.v6 ⟨List.replicate 16 1, rfl⟩) (by decide) rfl (by decide)⟩

end Icmp.Message

end IpTunnel
